import NodeRpc.Node.Control
import NodeRpc.Proofs.Chain.AmountsReceived
import NodeRpc.Proofs.Chain.AmountsSent
import NodeRpc.Proofs.Shape.Parts

/-!
# Amounts are never rounded

A number of coins is binary and an amount is decimal, so a number that is received might be read as
an amount that is merely close to it. It is not. The digits that are scanned are those of the
shortest decimal of the number, and they are scanned into an amount exactly if they are one
(`Amount.ofCoins_eq_ok_iff`, `SignedAmount.ofCoins_eq_ok_iff`): the limit on the length, the check
for overflow after each digit and the limit on the places refuse nothing else and let nothing else
through. Nothing is asked of the number here. It may be far from all the coins there are, or so
small that its digits take hundreds of places.

Since a shortest decimal reads back as its number, the number can be had from the amount again.
Minus zero is the one number that comes back as another.

`NeverRounds` says both of a result that holds an amount somewhere, which is what the callers see.
Where the amount is in the result is given by `Shape.Reads`, a path through lists, optional values
and records of either kind, so that nothing is said of one record that is not said of all of them.
Results are decoded at once, and if any other field of a record is wrong there is no result;
`NeverRounds` then holds of the refusal, and its first part says nothing.

A number with a ninth place is refused, and this is also what becomes of an amount that somebody
computed in binary64 and sent without rounding it. What is shown is that such a thing does not go
unnoticed, and not that it is put right.
-/

namespace NodeRpc

namespace Amount

/-! ## Scanning, read backwards

What a scan that came to a value says of the text. Every check it makes is passed, and the ones that
could have been made too early, on the length of the text and on each prefix, are shown to be
implied by those that have to be made. -/

section Scan

variable {cs : List Char} (hcs : ∀ c ∈ cs, c.isDigit = true) {position v sat : Nat}

include hcs

theorem scan_whole_of_value {rest : List Char}
    (h : scan position v none (cs ++ rest) = .value sat) :
    scan (position + cs.length) (Nat.ofDigitChars 10 cs v) none rest = .value sat := by
  induction cs generalizing position v with
  | nil => exact h
  | cons c cs ih =>
    have hdigit := digit?_of_isDigit (hcs c (by simp))
    rw [List.cons_append, scan, hdigit] at h
    dsimp only at h
    split at h
    · cases h
    · have hmore := ih (fun d hd => hcs d (by simp [hd])) h
      rwa [Nat.ofDigitChars_cons, Nat.mul_comm 10, List.length_cons, Nat.add_comm cs.length,
        ← Nat.add_assoc]

theorem scan_fraction_of_value {k : Nat} (hk : k ≤ places)
    (h : scan position v (some k) cs = .value sat) :
    k + cs.length ≤ places ∧
      sat = Nat.ofDigitChars 10 cs v * 10 ^ (places - (k + cs.length)) ∧ sat < UInt64.size := by
  induction cs generalizing position v k with
  | nil =>
    rw [scan] at h
    split at h
    · rename_i hfits
      cases h
      exact ⟨hk, rfl, hfits⟩
    · cases h
  | cons c cs ih =>
    have hdigit := digit?_of_isDigit (hcs c (by simp))
    rw [scan, hdigit] at h
    dsimp only at h
    split at h
    · cases h
    · split at h
      · rename_i hplace
        have hmore := ih (fun d hd => hcs d (by simp [hd])) hplace h
        rwa [Nat.ofDigitChars_cons, Nat.mul_comm 10, List.length_cons, Nat.add_comm cs.length,
          ← Nat.add_assoc]
      · cases h

end Scan

/-- **A layout is scanned into the satoshi it is worth, if it is a whole number of satoshi that fits
64 bits, and not at all otherwise.** -/
theorem scan_layout_iff {whole fraction : List Char}
    (hdigits : ∀ c ∈ whole ++ fraction, c.isDigit = true) {position sat : Nat} :
    scan position 0 none (whole ++ Json.Numeral.fractionChars fraction) = .value sat ↔
      fraction.length ≤ places ∧
        sat = Nat.ofDigitChars 10 (whole ++ fraction) 0 * 10 ^ (places - fraction.length) ∧
        sat < UInt64.size := by
  constructor
  · intro h
    have hwhole : ∀ c ∈ whole, c.isDigit = true := fun c hc => hdigits c (by simp [hc])
    have hfraction : ∀ c ∈ fraction, c.isDigit = true := fun c hc => hdigits c (by simp [hc])
    have hrest := scan_whole_of_value hwhole h
    rw [Nat.ofDigitChars_append]
    cases fraction with
    | nil =>
      rw [Json.Numeral.fractionChars, scan] at hrest
      split at hrest
      · rename_i hfits
        cases hrest
        exact ⟨Nat.zero_le _, rfl, hfits⟩
      · cases hrest
    | cons c cs =>
      have hpoint : digit? '.' = none := by decide
      rw [Json.Numeral.fractionChars, scan, hpoint] at hrest
      · dsimp only at hrest
        have hvalue := scan_fraction_of_value hfraction (Nat.zero_le _) hrest
        rwa [Nat.zero_add] at hvalue
      · exact List.cons_ne_nil _ _
  · rintro ⟨hplaces, rfl, hfits⟩
    exact scan_layout whole fraction hdigits hplaces hfits position

end Amount

/-! ## What the digits of a number come to -/

namespace Binary64

/-- The shortest decimal of a number has no more places than it needs. -/
theorem le_exponent_of_satoshi {x : Binary64} {n : Nat} {tie : Tie}
    (h : (x.shortest tie).value = (n : ℚ) / (10 ^ 8 : Nat)) :
    -8 ≤ (x.shortest tie).exponent := by
  by_contra hless
  have hshortest := x.isShortest_shortest tie
  have hzero : x.isZero = false := by
    cases hzero : x.isZero with
    | false => rfl
    | true =>
      unfold shortest at hless
      rw [if_pos hzero] at hless
      exact absurd (by decide) hless
  generalize x.shortest tie = d at h hless hshortest
  obtain ⟨k, hk⟩ : ∃ k : Nat, d.exponent = -8 - (k + 1) :=
    ⟨(-9 - d.exponent).toNat, by omega⟩
  have hpow : (10 : ℚ) ^ (-8 - ((k : Int) + 1)) * 10 ^ (k + 1) * 10 ^ 8 = 1 := by
    rw [← zpow_natCast, ← zpow_natCast (10 : ℚ) 8, ← zpow_add₀ (by norm_num),
      ← zpow_add₀ (by norm_num)]
    norm_num
  have hcast : (d.digits : ℚ) = ((n * 10 ^ (k + 1) : Nat) : ℚ) := by
    unfold Decimal.value at h
    rw [hk, eq_div_iff (by norm_num)] at h
    push_cast at h ⊢
    rw [← h]
    linear_combination -(d.digits : ℚ) * hpow
  have hdigits : d.digits = n * 10 ^ (k + 1) := by exact_mod_cast hcast
  have hnonzero : d.digits ≠ 0 := by
    intro hnone
    have hvalue : d.value = 0 := by
      unfold Decimal.value
      rw [hnone, Nat.cast_zero, zero_mul]
    have hnear : x.Near 0 := hvalue ▸ hshortest.near
    rw [hnear.eq_zero] at hzero
    cases hzero
  -- more than eight places of a whole number of satoshi end in a zero, which the shortest does not
  refine hshortest.digits_mod_ten hnonzero ?_
  rw [hdigits, Nat.pow_succ, ← Nat.mul_assoc, Nat.mul_mod_left]

end Binary64

namespace Amount

/-- **The digits of a number are read as so many satoshi exactly if its shortest decimal is worth
so many and they fit 64 bits.** -/
theorem magnitude_eq_ok_iff {x : Binary64} {outOfRange : AmountFault} {n : Nat} :
    magnitude x outOfRange = .ok n ↔
      (x.shortest .larger).value = (n : ℚ) / (10 ^ 8 : Nat) ∧ n < UInt64.size := by
  constructor
  · intro h
    unfold magnitude at h
    split at h
    · cases h
    · split at h
      · rename_i sat hscan
        cases h
        rw [← Decimal.chars_plainNumeral, scan_layout_iff fun c hc =>
          Decimal.isDigit_plainNumeral _ hc, Decimal.length_plainNumeral_fraction,
          Decimal.ofDigitChars_plainNumeral] at hscan
        obtain ⟨hplaces, hsat, hfits⟩ := hscan
        have hexp : -8 ≤ (x.shortest .larger).exponent := by
          unfold places at hplaces
          omega
        exact ⟨((x.shortest .larger).satoshi_iff hexp).mp hsat.symm, hfits⟩
      · cases h
      · cases h
  · rintro ⟨hvalue, hsize⟩
    exact magnitude_of_shortest hsize hvalue (Binary64.le_exponent_of_satoshi hvalue) outOfRange

/-! ## Numbers of coins and amounts

The two kinds of amounts differ in their sign and in their bounds. `plainWorth` has the sign in it,
which makes both iffs one line long. -/

/-- **A number of coins is read as an amount exactly if it is not negative and its shortest decimal
is the amount.** -/
theorem ofCoins_eq_ok_iff {x : Binary64} {a : Amount} :
    ofCoins x = .ok a ↔ x.negative = false ∧ (x.shortest .larger).value = a.coins := by
  have hcoins : a.coins = (a.sat.toNat : ℚ) / (10 ^ 8 : Nat) := by
    unfold coins
    norm_num
  unfold ofCoins
  cases hsign : x.negative with
  | true =>
    -- with a sign it fails, before its digits are read or, if it is minus zero, behind them
    refine ⟨fun h => ?_, fun h => absurd h.1 (by decide)⟩
    split at h
    · cases h
    · obtain ⟨sat, -, h⟩ := Json.bind_eq_ok.mp h
      cases h
  | false =>
    rw [if_neg (by simp)]
    constructor
    · intro h
      obtain ⟨sat, hsat, h⟩ := Json.bind_eq_ok.mp h
      obtain ⟨hvalue, hsize⟩ := magnitude_eq_ok_iff.mp hsat
      cases h
      refine ⟨rfl, ?_⟩
      rw [hcoins, hvalue, UInt64.toNat_ofNat_of_lt' hsize]
    · rintro ⟨-, hvalue⟩
      rw [hcoins] at hvalue
      have hmagnitude : magnitude x (.above maximum) = .ok a.sat.toNat :=
        magnitude_eq_ok_iff.mpr ⟨hvalue, a.sat.toNat_lt_size⟩
      rw [hmagnitude]
      show Except.ok (Amount.mk (UInt64.ofNat a.sat.toNat)) = _
      rw [UInt64.ofNat_toNat]

end Amount

namespace SignedAmount

/-- The exact number of coins. -/
def coins (a : SignedAmount) : ℚ := a.sat.toInt / 10 ^ 8

end SignedAmount

/-- What the plain text of a number says, read as an exact decimal. It is the text that is scanned
for an amount. -/
def Binary64.plainWorth (x : Binary64) : ℚ :=
  if x.negative then -(x.shortest .larger).value else (x.shortest .larger).value

/-- A number is worth a whole number of satoshi if its magnitude is and the signs agree. -/
theorem Binary64.plainWorth_eq_iff {x : Binary64} {n : Int} :
    x.plainWorth = (n : ℚ) / 10 ^ 8 ↔
      (x.shortest .larger).value = (n.natAbs : ℚ) / (10 ^ 8 : Nat) ∧
        (if x.negative then -(n.natAbs : Int) else n.natAbs) = n := by
  have hpos := (x.shortest .larger).value_nonneg
  have habs : (n.natAbs : ℚ) = |(n : ℚ)| := by rw [Nat.cast_natAbs, Int.cast_abs]
  have hten : ((10 ^ 8 : Nat) : ℚ) = 10 ^ 8 := by norm_num
  unfold plainWorth
  rw [habs, hten, eq_div_iff (by norm_num), eq_div_iff (by norm_num)]
  split
  · have hsign : -(n.natAbs : Int) = n ↔ (n : ℚ) ≤ 0 := by
      rw [Int.cast_nonpos]
      omega
    rw [hsign]
    constructor
    · intro h
      have hn : (n : ℚ) ≤ 0 := by linarith
      exact ⟨by rw [abs_of_nonpos hn]; linarith, hn⟩
    · rintro ⟨h, hn⟩
      rw [abs_of_nonpos hn] at h
      linarith
  · have hsign : (n.natAbs : Int) = n ↔ 0 ≤ (n : ℚ) := by
      rw [Int.cast_nonneg_iff]
      omega
    rw [hsign]
    constructor
    · intro h
      have hn : 0 ≤ (n : ℚ) := by linarith
      exact ⟨by rw [abs_of_nonneg hn]; exact h, hn⟩
    · rintro ⟨h, hn⟩
      rwa [abs_of_nonneg hn] at h

namespace SignedAmount

theorem bounds (a : SignedAmount) : minimum ≤ a.sat.toInt ∧ a.sat.toInt ≤ maximum := by
  have hlower := a.sat.le_toInt
  have hupper := a.sat.toInt_lt
  have hminimum : minimum = -2 ^ 63 := by decide
  have hmaximum : maximum = 2 ^ 63 - 1 := by decide
  omega

/-- **A number of coins is read as a signed amount exactly if its shortest decimal, with its sign,
is the amount.** -/
theorem ofCoins_eq_ok_iff {x : Binary64} {a : SignedAmount} :
    ofCoins x = .ok a ↔ x.plainWorth = a.coins := by
  have hminimum : minimum = -2 ^ 63 := by decide
  have hmaximum : maximum = 2 ^ 63 - 1 := by decide
  unfold ofCoins coins
  constructor
  · intro h
    obtain ⟨magnitude, hmagnitude, h⟩ := Json.bind_eq_ok.mp h
    obtain ⟨hvalue, -⟩ := Amount.magnitude_eq_ok_iff.mp hmagnitude
    generalize hsat : (if x.negative then -Int.ofNat magnitude else (magnitude : Int)) = sat at h
    by_cases hrange : sat < minimum ∨ maximum < sat
    · rw [if_pos hrange] at h
      cases h
    · rw [if_neg hrange] at h
      cases h
      rw [Int64.toInt_ofInt_of_le (by omega) (by omega), Binary64.plainWorth_eq_iff, ← hsat]
      cases x.negative with
      | true => simp [hvalue]
      | false => simp [hvalue]
  · intro h
    obtain ⟨hvalue, hsign⟩ := Binary64.plainWorth_eq_iff.mp h
    have hbounds := a.bounds
    have hsize : a.sat.toInt.natAbs < UInt64.size := by
      unfold UInt64.size
      omega
    have hmagnitude : ∀ outOfRange, Amount.magnitude x outOfRange = .ok a.sat.toInt.natAbs :=
      fun _ => Amount.magnitude_eq_ok_iff.mpr ⟨hvalue, hsize⟩
    have hrange : ¬(a.sat.toInt < minimum ∨ maximum < a.sat.toInt) := by omega
    dsimp only
    rw [hmagnitude]
    simp only [bind, Except.bind, Int.ofNat_eq_natCast, hsign]
    rw [if_neg hrange, Int64.ofInt_toInt]
    rfl

end SignedAmount

/-! ## There and back

What `near_toCoins` says of an amount and what the shortest decimal says of a number meet here: the
amount determines an interval that the number is in. -/

/-- The number nearest to an amount that was read is the number it was read from. -/
theorem Amount.toCoins_of_ofCoins {x : Binary64} {a : Amount} (h : ofCoins x = .ok a) :
    a.toCoins = x := by
  obtain ⟨hsign, hvalue⟩ := ofCoins_eq_ok_iff.mp h
  obtain ⟨hasign, hanear⟩ := a.near_toCoins
  have hcoins : (a.sat.toNat : ℚ) / (10 ^ 8 : Nat) = a.coins := by
    unfold coins
    norm_num
  rw [hcoins, ← hvalue] at hanear
  exact Binary64.near_unique (Decimal.value_nonneg _) (hasign.trans hsign.symm) hanear
    (x.near_shortest .larger)

/-- So it is where amounts are signed, but that minus zero comes back as zero. -/
theorem SignedAmount.toCoins_of_ofCoins {x : Binary64} {a : SignedAmount} (h : ofCoins x = .ok a)
    (hx : x ≠ .zero true) : a.toCoins = x := by
  obtain ⟨hvalue, hsign⟩ := Binary64.plainWorth_eq_iff.mp (ofCoins_eq_ok_iff.mp h)
  have hnear := x.near_shortest .larger
  rw [hvalue] at hnear
  have hround := Binary64.ofRatio?_of_near (by decide) hnear
  have hnegative : decide (a.sat < 0) = x.negative := by
    rw [Bool.eq_iff_iff, decide_eq_true_iff, Int64.lt_iff_toInt_lt]
    show a.sat.toInt < 0 ↔ x.negative = true
    cases hsignal : x.negative with
    | false =>
      rw [hsignal, if_neg Bool.false_ne_true] at hsign
      simp only [Bool.false_eq_true, iff_false]
      omega
    | true =>
      rw [hsignal, if_pos rfl] at hsign
      have hnonzero : a.sat.toInt.natAbs ≠ 0 := by
        intro hzero
        rw [hzero, Nat.cast_zero, zero_div] at hnear
        exact hx (hsignal ▸ hnear.eq_zero)
      simp only [iff_true]
      omega
  have hplaces : tenPow Amount.places = 10 ^ 8 := by decide
  unfold toCoins
  rw [hnegative, hplaces, hround, Option.getD_some]

theorem SignedAmount.ne_zero_of_ofCoins {x : Binary64} {a : SignedAmount} (h : ofCoins x = .ok a)
    (ha : a.sat ≠ 0) : x ≠ .zero true := by
  rintro rfl
  have hworth : (Binary64.zero true).plainWorth = 0 := by
    simp [Binary64.plainWorth, Binary64.zero, Binary64.shortest, Binary64.isZero, Decimal.value]
  have hcoins := ofCoins_eq_ok_iff.mp h
  rw [hworth, coins, eq_comm, div_eq_zero_iff, or_iff_left (by norm_num),
    Int.cast_eq_zero] at hcoins
  exact ha (Int64.toInt_inj.mp hcoins)

/-! ## Reading never rounds

What has been shown of a number is carried up to the result of an operation, in steps that do not
know which kind of amount it is. An error is wrapped on the way, and each step says only that it
stays an error. -/

/-- Amounts of one sort: the satoshi in one, how it is written, and how many satoshi there are at
least and at most. -/
structure AmountKind (A : Type) where
  sat : A → Int
  toCoins : A → Binary64
  least : Int
  greatest : Int

namespace AmountKind

def unsigned : AmountKind Amount := ⟨fun a => a.sat.toNat, Amount.toCoins, 0, Amount.maximum⟩

def signed : AmountKind SignedAmount :=
  ⟨fun a => a.sat.toInt, SignedAmount.toCoins, SignedAmount.minimum, SignedAmount.maximum⟩

variable {A R ε : Type}

/-- A result that depends on the amount in a number of coins, with `amount` to find that amount in
it, was not rounded: the amount is what the shortest decimal says, and the number it came from is
the number that is written for it. A decimal that is no amount is refused. -/
structure NeverRounds (kind : AmountKind A) (x : Binary64) (result : Except ε R)
    (amount : R → Option A) (refusal : ε → Prop) : Prop where
  exact : ∀ r, result = .ok r → ∃ a, amount r = some a ∧
    x.plainWorth = (kind.sat a : ℚ) / 10 ^ 8 ∧ (x ≠ .zero true → kind.toCoins a = x)
  refused : 8 < (x.shortest .larger).plainNumeral.fraction.length ∨
    x.plainWorth < (kind.least : ℚ) / 10 ^ 8 ∨ (kind.greatest : ℚ) / 10 ^ 8 < x.plainWorth →
      ∃ fault, result = .error fault ∧ refusal fault

/-- A result is not rounded if the amount in it was not and is not passed over. -/
theorem NeverRounds.of {kind : AmountKind A} {x : Binary64} {read : Except AmountFault A}
    (h : kind.NeverRounds x read some fun _ => True) {result : Except ε R} {amount : R → Option A}
    {refusal : ε → Prop}
    (hok : ∀ r, result = .ok r → ∃ a, read = .ok a ∧ amount r = some a)
    (herror : ∀ fault, read = .error fault → ∃ other, result = .error other ∧ refusal other) :
    kind.NeverRounds x result amount refusal := by
  constructor
  · intro r hr
    obtain ⟨a, ha, hamount⟩ := hok r hr
    obtain ⟨b, hb, hexact⟩ := h.exact a ha
    cases hb
    exact ⟨a, hamount, hexact⟩
  · intro hno
    obtain ⟨fault, hfault, -⟩ := h.refused hno
    exact herror fault hfault

theorem neverRounds_of_exact {kind : AmountKind A} {x : Binary64} {read : Except AmountFault A}
    (hrange : ∀ a, kind.least ≤ kind.sat a ∧ kind.sat a ≤ kind.greatest)
    (hexact : ∀ a, read = .ok a → x.plainWorth = (kind.sat a : ℚ) / 10 ^ 8)
    (hback : ∀ a, read = .ok a → x ≠ .zero true → kind.toCoins a = x) :
    kind.NeverRounds x read some fun _ => True := by
  constructor
  · intro a ha
    exact ⟨a, rfl, hexact a ha, hback a ha⟩
  · intro hno
    cases hread : read with
    | error fault => exact ⟨fault, rfl, trivial⟩
    | ok a =>
      have hworth := hexact a hread
      obtain ⟨hleast, hgreatest⟩ := hrange a
      have hten : (0 : ℚ) < 10 ^ 8 := by norm_num
      rcases hno with hplaces | hbelow | habove
      · have hexp := Binary64.le_exponent_of_satoshi (Binary64.plainWorth_eq_iff.mp hworth).1
        rw [Decimal.length_plainNumeral_fraction] at hplaces
        omega
      · rw [hworth, div_lt_div_iff_of_pos_right hten, Int.cast_lt] at hbelow
        omega
      · rw [hworth, div_lt_div_iff_of_pos_right hten, Int.cast_lt] at habove
        omega

theorem unsigned_neverRounds (x : Binary64) :
    unsigned.NeverRounds x (Amount.ofCoins x) some fun _ => True := by
  apply neverRounds_of_exact
  · intro a
    have hsize := a.sat.toNat_lt_size
    unfold unsigned Amount.maximum
    dsimp only
    omega
  · intro a ha
    obtain ⟨hsign, hvalue⟩ := Amount.ofCoins_eq_ok_iff.mp ha
    unfold Binary64.plainWorth
    rw [hsign, if_neg Bool.false_ne_true, hvalue]
    simp [unsigned, Amount.coins]
  · exact fun a ha _ => Amount.toCoins_of_ofCoins ha

theorem signed_neverRounds (x : Binary64) :
    signed.NeverRounds x (SignedAmount.ofCoins x) some fun _ => True := by
  apply neverRounds_of_exact
  · exact fun a => a.bounds
  · exact fun a ha => SignedAmount.ofCoins_eq_ok_iff.mp ha
  · exact fun a ha hx => SignedAmount.toCoins_of_ofCoins ha hx

/-- What becomes of the reasons for a refusal does not matter. -/
theorem NeverRounds.mapError {kind : AmountKind A} {x : Binary64} {read : Except AmountFault A}
    (h : kind.NeverRounds x read some fun _ => True) (f : AmountFault → ε) {refusal : ε → Prop}
    (hf : ∀ fault, refusal (f fault)) :
    kind.NeverRounds x (read.mapError f) some refusal := by
  apply h.of
  · intro a ha
    cases read with
    | error fault => cases ha
    | ok b =>
      cases ha
      exact ⟨a, rfl, rfl⟩
  · rintro fault rfl
    exact ⟨f fault, rfl, hf fault⟩

/-- An operation whose result is of a shape that reads the amount as a part. -/
theorem NeverRounds.ask {kind : AmountKind A} {x : Binary64} {read : Except AmountFault A}
    (h : kind.NeverRounds x read some fun _ => True) {shape : Shape R} {sub : Shape A}
    {value part : Json} {amount : R → Option A} (hreads : shape.Reads value amount sub part)
    (hsub : sub.decode part = read.mapError .amount) (method : String) (params : List Json) :
    kind.NeverRounds x ((Operation.ask method params shape).read (.ok value)) amount
      fun error => ∃ fault, error = .decode method fault := by
  have hask : (Operation.ask method params shape).read (.ok value) =
      (shape.decode value).mapError (.decode method) := rfl
  rw [hask]
  apply h.of
  · intro r hr
    cases hdecode : shape.decode value with
    | error fault =>
      rw [hdecode] at hr
      cases hr
    | ok found =>
      rw [hdecode] at hr
      cases hr
      obtain ⟨a, ha, hamount⟩ := hreads.decode_eq_ok hdecode
      rw [hsub] at ha
      cases read with
      | error fault => cases ha
      | ok b =>
        cases ha
        exact ⟨a, rfl, hamount⟩
  · rintro fault rfl
    obtain ⟨other, hother⟩ := hreads.decode_eq_error hsub
    rw [hother]
    exact ⟨.decode method other, rfl, other, rfl⟩

end AmountKind

section Read

variable (number : Number)

theorem decode_coins : Shape.coins.decode (.number number) =
    (Amount.ofCoins (Decode.realOfNumber number)).mapError .amount := by
  rw [Shape.decode]
  rfl

theorem decode_signedCoins : Shape.signedCoins.decode (.number number) =
    (SignedAmount.ofCoins (Decode.realOfNumber number)).mapError .amount := by
  rw [Shape.decode]
  rfl

theorem read_unconfirmedBalance : Node.unconfirmedBalance.read (.ok (.number number)) =
    (Amount.ofCoins (Decode.realOfNumber number)).mapError
      (Node.invalidCoins (Decode.realOfNumber number)) := by
  show ((Shape.real.decode (.number number)).mapError _).bind Node.readAmount = _
  rw [Shape.decode]
  rfl

theorem read_balance (account : Option String) (minConfirmations : Option UInt32)
    (includeWatchOnly : Option Bool) :
    (Node.balance account minConfirmations includeWatchOnly).read (.ok (.number number)) =
      (SignedAmount.ofCoins (Decode.realOfNumber number)).mapError
        (Node.invalidCoins (Decode.realOfNumber number)) := by
  show ((Shape.real.decode (.number number)).mapError _).bind Node.readSignedAmount = _
  rw [Shape.decode]
  rfl

end Read

/-- **Amounts are never rounded.** Let a balance, or a field that holds an amount at any depth of a
result, be sent as a number that is `x` as binary64. Every result that has such a field is covered:
`Reads` goes into lists, into what may be null, and into records of both kinds, also those that keep
foreign members. If the number is accepted, the amount is exactly the shortest decimal of `x`, and
unless `x` is minus zero, `x` is the number nearest to the amount. If that decimal has more than
eight places or is out of range, the call fails. So no two numbers are accepted as one amount,
except zeros. -/
theorem amounts_never_rounded (number : Number) {x : Binary64}
    (hx : Decode.realOfNumber number = x) :
    x.IsShortest (x.shortest .larger) ∧
      (∀ {R : Type} {shape : Shape R} {value : Json} {amount : R → Option Amount},
        shape.Reads value amount .coins (.number number) → ∀ method params,
          AmountKind.unsigned.NeverRounds x ((Operation.ask method params shape).read (.ok value))
            amount fun error => ∃ fault, error = .decode method fault) ∧
      (∀ {R : Type} {shape : Shape R} {value : Json} {amount : R → Option SignedAmount},
        shape.Reads value amount .signedCoins (.number number) → ∀ method params,
          AmountKind.signed.NeverRounds x ((Operation.ask method params shape).read (.ok value))
            amount fun error => ∃ fault, error = .decode method fault) ∧
      (AmountKind.unsigned.NeverRounds x (Node.unconfirmedBalance.read (.ok (.number number)))
        some fun error => ∃ detail, error = .invalidData detail) ∧
      (∀ account minConfirmations includeWatchOnly,
        AmountKind.signed.NeverRounds x
          ((Node.balance account minConfirmations includeWatchOnly).read (.ok (.number number)))
          some fun error => ∃ detail, error = .invalidData detail) ∧
      ∀ y : Binary64,
        (∀ a, Amount.ofCoins x = .ok a → Amount.ofCoins y = .ok a → a.sat ≠ 0 → x = y) ∧
          ∀ a, SignedAmount.ofCoins x = .ok a → SignedAmount.ofCoins y = .ok a → a.sat ≠ 0 →
            x = y := by
  subst hx
  refine ⟨Binary64.isShortest_shortest _ .larger, ?_, ?_, ?_, ?_, ?_⟩
  · intro R shape value amount hreads method params
    exact (AmountKind.unsigned_neverRounds _).ask hreads (decode_coins number) method params
  · intro R shape value amount hreads method params
    exact (AmountKind.signed_neverRounds _).ask hreads (decode_signedCoins number) method params
  · rw [read_unconfirmedBalance]
    exact (AmountKind.unsigned_neverRounds _).mapError _ fun fault => ⟨_, rfl⟩
  · intro account minConfirmations includeWatchOnly
    rw [read_balance]
    exact (AmountKind.signed_neverRounds _).mapError _ fun fault => ⟨_, rfl⟩
  -- a number that is accepted can be had back from its amount, so the amount determines it
  · intro y
    constructor
    · intro a hx hy _
      exact (Amount.toCoins_of_ofCoins hx).symm.trans (Amount.toCoins_of_ofCoins hy)
    · intro a hx hy ha
      have hxzero := SignedAmount.ne_zero_of_ofCoins hx ha
      have hyzero := SignedAmount.ne_zero_of_ofCoins hy ha
      exact (SignedAmount.toCoins_of_ofCoins hx hxzero).symm.trans
        (SignedAmount.toCoins_of_ofCoins hy hyzero)

/-- Half a coin. -/
def halfCoin : Binary64 := ⟨false, 1 <<< 52, 1021, by decide⟩

/-- The settings of a node that mines nothing below half a coin, and a setting that no field is
for. -/
def settingsOfHalfCoin : List (String × Json) :=
  [("blockmaxsize", .word 2), ("excessiveblocksize", .word 1), ("maxstackmemoryusage", .null),
    ("maxtxsizepolicy", .word 3), ("minminingtxfee", .number (.real halfCoin))]

theorem decode_settingsOfHalfCoin : Settings.shape.decode (.object settingsOfHalfCoin) =
    .ok ⟨1, 2, 3, ⟨50000000⟩, [("maxstackmemoryusage", .null)]⟩ := by
  have hnames : (settingsOfHalfCoin.map Prod.fst).Nodup := by decide
  have hread : Amount.ofCoins halfCoin = .ok ⟨50000000⟩ := by decide +kernel
  have hfee : Shape.coins.decode (.number (.real halfCoin)) = .ok ⟨50000000⟩ := by
    rw [decode_coins, Decode.realOfNumber, hread]
    rfl
  exact (decode_openRecord_iff hnames).mpr ⟨_, ofMembers_member rfl (decode_word 1) <|
    ofMembers_member rfl (decode_word 2) <| ofMembers_member rfl (decode_word 3) <|
    ofMembers_member rfl hfee (by rw [Fields.ofMembers]), rfl⟩

/-- An entry of the mempool whose fee is the least number above zero is refused. A least fee of half
a coin is accepted among the settings, and it is half a coin exactly. -/
theorem amounts_never_rounded_leastFee :
    (∃ fault, (Operation.ask "getmempoolentry" [] MempoolEntry.shape).read
      (.ok (.object [("fee", .number (.real ⟨false, 1, 0, by decide⟩)), ("height", .word 120),
        ("modifiedfee", .word 0), ("size", .word 191), ("time", .word 1700000000)])) =
          .error (.decode "getmempoolentry" fault)) ∧
    ∃ settings, Node.settings.read (.ok (.object settingsOfHalfCoin)) = .ok settings ∧
      halfCoin.plainWorth = (settings.minMiningTxFee.sat.toNat : ℚ) / 10 ^ 8 ∧
      settings.minMiningTxFee.toCoins = halfCoin := by
  constructor
  · have hfee : MempoolEntry.shape.Reads
        (.object [("fee", .number (.real ⟨false, 1, 0, by decide⟩)), ("height", .word 120),
          ("modifiedfee", .word 0), ("size", .word 191), ("time", .word 1700000000)])
        (fun entry => some entry.fee) .coins (.number (.real ⟨false, 1, 0, by decide⟩)) :=
      .member (fun _ => rfl) (.later .first) rfl .whole
    obtain ⟨-, hfields, -⟩ := amounts_never_rounded (.real ⟨false, 1, 0, by decide⟩) rfl
    obtain ⟨error, herror, fault, rfl⟩ :=
      (hfields hfee "getmempoolentry" []).refused (Or.inl (by decide +kernel))
    exact ⟨fault, herror⟩
  · have hfee : Settings.shape.Reads (.object settingsOfHalfCoin)
        (fun settings => some settings.minMiningTxFee) .coins (.number (.real halfCoin)) :=
      .openMember (fun _ _ => rfl) (.later (.later (.later .first))) rfl .whole
    obtain ⟨settings, hread⟩ :
        ∃ settings, Node.settings.read (.ok (.object settingsOfHalfCoin)) = .ok settings :=
      ⟨_, congrArg (Except.mapError (CallError.decode "getsettings")) decode_settingsOfHalfCoin⟩
    obtain ⟨-, hfields, -⟩ := amounts_never_rounded (.real halfCoin) rfl
    obtain ⟨amount, hamount, hworth, hback⟩ :=
      (hfields hfee "getsettings" []).exact settings hread
    cases hamount
    have hnonneg : halfCoin ≠ .zero true := fun h =>
      Bool.false_ne_true (congrArg Binary64.negative h)
    refine ⟨settings, hread, hworth.trans ?_, hback hnonneg⟩
    have hsat : AmountKind.unsigned.sat settings.minMiningTxFee =
        (settings.minMiningTxFee.sat.toNat : Int) := rfl
    rw [hsat, Int.cast_natCast]

end NodeRpc
