import NodeRpc.Node.Wallet
import NodeRpc.Result.Ledger
import NodeRpc.Proofs.Chain.Satoshi
import NodeRpc.Proofs.Json.PlainNumber
import NodeRpc.Proofs.Shape.Records

/-!
# Amounts are received exactly

A node writes an amount as a decimal number of coins with at most eight places. The way back to the
amount has three steps, and none of them loses a satoshi anywhere in the supply:

* the text is read as a binary64 number near what it says (`exists_parse?`), because so few digits
  are rounded only once;
* the shortest decimal of that number is what the text said (`shortest_of_satoshi`), whatever zeros
  the text had at its end;
* the digits of that decimal, in the layout without an exponent, are scanned into the amount
  (`scan_layout`): they fit, and they have no ninth place.

The first step asks for less than it might seem. The reader of JSON numbers does not round to the
nearest, and it is not shown here that it does so for amounts; that the number it comes to has the
amount in its interval is enough, as what is done next depends on the interval only.

The statement is about texts, because an amount arrives as one. `WritesCoins` allows for every way
in which a node may write it, with or without zeros at the end and with or without a fraction, and
not just for the eight places that nodes write. It allows for no exponent. One field is left out
with good reason: the reward of a mining candidate is sent in satoshi, as an integer, and is no
number of coins at all.
-/

namespace NodeRpc

namespace Decimal

/-! ## The plain layout

The layout without an exponent, as parts of a numeral, so that what is known of numerals holds of
it. An amount is scanned from this layout, and not from the one of JSON, which goes over to
exponents below a hundred thousandth. -/

/-- The parts of a decimal in the plain layout. -/
def plainNumeral (d : Decimal) : Json.Numeral :=
  let digits := digitChars d.digits
  if 0 ≤ d.exponent then
    ⟨if d.digits = 0 then ['0'] else digits ++ List.replicate d.exponent.toNat '0', [], none⟩
  else if 0 < d.point then ⟨digits.take d.point.toNat, digits.drop d.point.toNat, none⟩
  else ⟨['0'], List.replicate (-d.point).toNat '0' ++ digits, none⟩

variable (d : Decimal)

theorem chars_plainNumeral : d.plainNumeral.whole ++
    Json.Numeral.fractionChars d.plainNumeral.fraction = d.plain := by
  unfold plainNumeral plain
  dsimp only
  split
  · exact List.append_nil _
  · split
    · -- the exponent is negative, so digits remain behind the point
      have hdrop : (digitChars d.digits).drop d.point.toNat ≠ [] := by
        rw [ne_eq, List.drop_eq_nil_iff]
        unfold point at *
        omega
      rw [Json.fractionChars_of_ne_nil hdrop]
    · rw [Json.fractionChars_of_ne_nil (by simp [digitChars_ne_nil])]
      rfl

theorem isDigit_plainNumeral {c : Char}
    (h : c ∈ d.plainNumeral.whole ++ d.plainNumeral.fraction) : c.isDigit = true := by
  have hzeros : ∀ k, c ∈ List.replicate k '0' → c.isDigit = true :=
    fun _ hmem => Json.isDigit_of_mem_zeros hmem
  have hdigits : c ∈ digitChars d.digits → c.isDigit = true := isDigit_of_mem_digitChars
  unfold plainNumeral at h
  dsimp only at h
  split at h
  · rw [List.append_nil] at h
    split at h
    · exact hzeros 1 h
    · exact (List.mem_append.mp h).elim hdigits (hzeros _)
  · split at h
    · rw [List.take_append_drop] at h
      exact hdigits h
    · rcases List.mem_append.mp h with hzero | hrest
      · exact hzeros 1 hzero
      · exact (List.mem_append.mp hrest).elim (hzeros _) hdigits

/-- There are as many places as the exponent says. -/
theorem length_plainNumeral_fraction :
    d.plainNumeral.fraction.length = (-d.exponent).toNat := by
  have hlen := List.length_pos_of_ne_nil (digitChars_ne_nil d.digits)
  unfold plainNumeral
  dsimp only
  split
  · rw [List.length_nil]
    omega
  · split
    · rw [List.length_drop]
      unfold point at *
      omega
    · rw [List.length_append, List.length_replicate]
      unfold point at *
      omega

/-- The digits before and behind the point, without the point. -/
theorem ofDigitChars_plainNumeral :
    Nat.ofDigitChars 10 (d.plainNumeral.whole ++ d.plainNumeral.fraction) 0 =
      d.digits * 10 ^ d.exponent.toNat := by
  have hdigits : Nat.ofDigitChars 10 (digitChars d.digits) 0 = d.digits :=
    Nat.ofDigitChars_ten_toDigits
  unfold plainNumeral
  dsimp only
  split
  · rw [List.append_nil]
    split
    · rename_i hzero
      rw [hzero, Nat.zero_mul]
      rfl
    · rw [Nat.ofDigitChars_append, hdigits, Nat.ofDigitChars_replicate_zero, Nat.mul_comm]
  · have hexp : d.exponent.toNat = 0 := by omega
    rw [hexp, Nat.pow_zero, Nat.mul_one]
    split
    · rw [List.take_append_drop, hdigits]
    · rw [ofDigitChars_leading_zeros, hdigits]

/-- A decimal of an amount, with its digits brought to the place of the satoshi. -/
theorem satoshi_iff {n : Nat} (hexp : -8 ≤ d.exponent) :
    d.digits * 10 ^ d.exponent.toNat * 10 ^ (Amount.places - (-d.exponent).toNat) = n ↔
      d.value = (n : ℚ) / (10 ^ 8 : Nat) := by
  have hpow : (10 : ℚ) ^ d.exponent.toNat * (10 : ℚ) ^ (Amount.places - (-d.exponent).toNat) =
      (10 : ℚ) ^ d.exponent * 10 ^ 8 := by
    rw [← zpow_natCast, ← zpow_natCast, ← zpow_add₀ (by norm_num), ← zpow_natCast (10 : ℚ) 8,
      ← zpow_add₀ (by norm_num)]
    congr 1
    unfold Amount.places at *
    omega
  have hcast : ((d.digits * 10 ^ d.exponent.toNat *
      10 ^ (Amount.places - (-d.exponent).toNat) : Nat) : ℚ) = d.value * 10 ^ 8 := by
    unfold value
    push_cast
    rw [mul_assoc, hpow, ← mul_assoc]
  rw [← Nat.cast_inj (R := ℚ), hcast, eq_div_iff (by norm_num)]
  norm_num

/-- A decimal of few digits has a short layout. -/
theorem length_plain_le {k : Nat} (hk : 0 < k) (h : d.digits * 10 ^ d.exponent.toNat < 10 ^ k) :
    d.plain.length ≤ 2 + k + (-d.exponent).toNat := by
  have hlength : ∀ {j : Nat}, 0 < j → d.digits < 10 ^ j → (digitChars d.digits).length ≤ j :=
    fun hj hlt => (Nat.length_toDigits_le_iff (by decide) hj).mpr hlt
  unfold plain
  dsimp only
  split
  · split
    · rw [List.length_singleton]
      omega
    · rename_i hzero
      have hexp : d.exponent.toNat < k := by
        refine (Nat.pow_lt_pow_iff_right (by decide : 1 < 10)).mp (Nat.lt_of_le_of_lt ?_ h)
        exact Nat.le_mul_of_pos_left _ (Nat.pos_of_ne_zero hzero)
      have hsplit : 10 ^ k = 10 ^ (k - d.exponent.toNat) * 10 ^ d.exponent.toNat := by
        rw [← Nat.pow_add]
        congr 1
        omega
      rw [hsplit] at h
      have := hlength (by omega) (Nat.lt_of_mul_lt_mul_right h)
      rw [List.length_append, List.length_replicate]
      omega
  · have hexp : d.exponent.toNat = 0 := by omega
    rw [hexp, Nat.pow_zero, Nat.mul_one] at h
    have := hlength hk h
    split
    · rw [List.length_append, List.length_cons, List.length_take, List.length_drop]
      omega
    · simp only [List.length_cons, List.length_append, List.length_replicate]
      unfold point at *
      omega

end Decimal

namespace Amount

/-! ## Scanning digits

`scan` keeps what it has read so far and checks after each digit that it still fits, so the lemmas
are about a scan that is under way. The fit of the whole is the one hypothesis; that the checks in
between pass follows from it, as a prefix is worth no more. -/

theorem le_ofDigitChars (cs : List Char) (v : Nat) : v ≤ Nat.ofDigitChars 10 cs v := by
  have hle := Json.le_foldl_digits (digitValues cs) v
  unfold digitValues at hle
  rwa [List.foldl_map] at hle

/-- Digits before the point are added up. -/
theorem scan_whole {cs : List Char} (hcs : ∀ c ∈ cs, c.isDigit = true) (position v : Nat)
    (rest : List Char) (hfits : Nat.ofDigitChars 10 cs v < UInt64.size) :
    scan position v none (cs ++ rest) =
      scan (position + cs.length) (Nat.ofDigitChars 10 cs v) none rest := by
  induction cs generalizing position v with
  | nil => rfl
  | cons c cs ih =>
    rw [Nat.ofDigitChars_cons, Nat.mul_comm] at hfits
    have hdigit := digit?_of_isDigit (hcs c (by simp))
    have hle := le_ofDigitChars cs (v * 10 + (c.toNat - '0'.toNat))
    rw [List.cons_append, scan, hdigit]
    dsimp only
    rw [if_neg (by omega), ih (fun d hd => hcs d (by simp [hd])) _ _ hfits,
      Nat.ofDigitChars_cons, Nat.mul_comm 10, List.length_cons, Nat.add_assoc, Nat.add_comm 1]

/-- Digits behind the point are added up as long as there are places. -/
theorem scan_fraction {cs : List Char} (hcs : ∀ c ∈ cs, c.isDigit = true) (position v k : Nat)
    (hplaces : k + cs.length ≤ places)
    (hfits : Nat.ofDigitChars 10 cs v * 10 ^ (places - (k + cs.length)) < UInt64.size) :
    scan position v (some k) cs =
      .value (Nat.ofDigitChars 10 cs v * 10 ^ (places - (k + cs.length))) := by
  induction cs generalizing position v k with
  | nil =>
    rw [List.length_nil, Nat.add_zero, Nat.ofDigitChars, List.foldl_nil] at hfits ⊢
    rw [scan]
    exact if_pos hfits
  | cons c cs ih =>
    have hlength : k + (c :: cs).length = k + 1 + cs.length := by
      rw [List.length_cons]
      omega
    rw [Nat.ofDigitChars_cons, Nat.mul_comm 10, hlength] at hfits ⊢
    rw [hlength] at hplaces
    have hdigit := digit?_of_isDigit (hcs c (by simp))
    have hle := le_ofDigitChars cs (v * 10 + (c.toNat - '0'.toNat))
    have hscale := Nat.le_mul_of_pos_right
      (Nat.ofDigitChars 10 cs (v * 10 + (c.toNat - '0'.toNat)))
      (Nat.pow_pos (n := places - (k + 1 + cs.length)) (by decide : 0 < 10))
    rw [scan, hdigit]
    dsimp only
    rw [if_neg (by omega), if_pos (by omega)]
    exact ih (fun d hd => hcs d (by simp [hd])) _ _ _ hplaces hfits

/-- **A layout with at most eight places is scanned into the satoshi it is worth.** The places that
are missing are made up for in the end, by the power of ten, and this is the value whose fit is
asked for. -/
theorem scan_layout (whole fraction : List Char)
    (hdigits : ∀ c ∈ whole ++ fraction, c.isDigit = true) (hplaces : fraction.length ≤ places)
    (hfits : Nat.ofDigitChars 10 (whole ++ fraction) 0 * 10 ^ (places - fraction.length) <
      UInt64.size) (position : Nat) :
    scan position 0 none (whole ++ Json.Numeral.fractionChars fraction) =
      .value (Nat.ofDigitChars 10 (whole ++ fraction) 0 * 10 ^ (places - fraction.length)) := by
  have hwhole : ∀ c ∈ whole, c.isDigit = true := fun c hc => hdigits c (by simp [hc])
  have hfraction : ∀ c ∈ fraction, c.isDigit = true := fun c hc => hdigits c (by simp [hc])
  rw [Nat.ofDigitChars_append] at hfits ⊢
  have hle := le_ofDigitChars fraction (Nat.ofDigitChars 10 whole 0)
  have hscale := Nat.le_mul_of_pos_right
    (Nat.ofDigitChars 10 fraction (Nat.ofDigitChars 10 whole 0))
    (Nat.pow_pos (n := places - fraction.length) (by decide : 0 < 10))
  rw [scan_whole hwhole _ _ _ (by omega)]
  cases fraction with
  | nil =>
    rw [Json.Numeral.fractionChars, scan]
    exact if_pos hfits
  | cons c cs =>
    rw [Json.Numeral.fractionChars, scan]
    · have hpoint : digit? '.' = none := by decide
      rw [hpoint]
      dsimp only
      rw [scan_fraction hfraction _ _ 0 (by omega) (by rwa [Nat.zero_add]), Nat.zero_add]
    · exact List.cons_ne_nil _ _

end Amount

/-! ## From a number near an amount to the amount

A number and an amount it is near, both fixed. The sign is taken off first and put back in the end,
and minus zero becomes zero. -/

/-- A number whose shortest decimal is a number of satoshi is read as that many. -/
theorem Amount.magnitude_of_shortest {x : Binary64} {n : Nat} (hsize : n < UInt64.size)
    (hvalue : (x.shortest .larger).value = (n : ℚ) / (10 ^ 8 : Nat))
    (hexp : -8 ≤ (x.shortest .larger).exponent) (outOfRange : AmountFault) :
    Amount.magnitude x outOfRange = .ok n := by
  generalize hd : x.shortest .larger = d at hvalue hexp
  have hworth := (d.satoshi_iff hexp).mpr hvalue
  have hplaces : (-d.exponent).toNat ≤ Amount.places := by
    unfold Amount.places
    omega
  have hwords : UInt64.size < 10 ^ 20 := by decide
  have hscale := Nat.le_mul_of_pos_right (d.digits * 10 ^ d.exponent.toNat)
    (Nat.pow_pos (n := Amount.places - (-d.exponent).toNat) (by decide : 0 < 10))
  have hshort := d.length_plain_le (k := 20) (by decide) (by omega)
  have hlength : x.plain.length ≤ AmountFault.lengthLimit := by
    unfold Binary64.plain Binary64.signed AmountFault.lengthLimit
    rw [hd]
    unfold Amount.places at hplaces
    split
    · rw [List.length_cons]
      omega
    · omega
  have hscan := Amount.scan_layout d.plainNumeral.whole d.plainNumeral.fraction
    (fun c hc => d.isDigit_plainNumeral hc)
    (by rwa [d.length_plainNumeral_fraction])
    (by rwa [d.ofDigitChars_plainNumeral, d.length_plainNumeral_fraction, hworth])
    (if x.negative then 1 else 0)
  rw [d.ofDigitChars_plainNumeral, d.length_plainNumeral_fraction, hworth,
    d.chars_plainNumeral] at hscan
  unfold Amount.magnitude
  rw [if_neg (by omega), hd, hscan]

section Near

variable {x : Binary64} {n : Nat} (hn : n ≤ Amount.supply) (h : x.Near ((n : ℚ) / (10 ^ 8 : Nat)))

include hn h

/-- The digits of a number near an amount are the amount's. -/
theorem magnitude_of_near (outOfRange : AmountFault) :
    Amount.magnitude x outOfRange = .ok n := by
  obtain ⟨hvalue, hexp⟩ := Binary64.shortest_of_satoshi hn h .larger
  exact Amount.magnitude_of_shortest (hn.trans_lt (by decide)) hvalue hexp outOfRange

/-- A number that is not negative and near an amount is read as the amount. -/
theorem amount_of_near (hsign : x.negative = false) :
    ∃ a, Amount.ofCoins x = .ok a ∧ a.sat.toNat = n := by
  refine ⟨⟨UInt64.ofNat n⟩, ?_, UInt64.toNat_ofNat_of_lt' (hn.trans_lt (by decide))⟩
  unfold Amount.ofCoins
  rw [magnitude_of_near hn h, hsign]
  rfl

/-- A number near an amount of its sign is read as the amount. -/
theorem signedAmount_of_near :
    ∃ a, SignedAmount.ofCoins x = .ok a ∧ a.sat.toInt = if x.negative then -(n : Int) else n := by
  have hsupply : Amount.supply < 2 ^ 62 := by decide
  have hminimum : SignedAmount.minimum = -2 ^ 63 := by decide
  have hmaximum : SignedAmount.maximum = 2 ^ 63 - 1 := by decide
  refine ⟨⟨Int64.ofInt (if x.negative then -(n : Int) else n)⟩, ?_, ?_⟩
  · unfold SignedAmount.ofCoins
    simp only [magnitude_of_near hn h]
    refine if_neg ?_
    rw [hminimum, hmaximum, Int.ofNat_eq_natCast]
    split <;> omega
  · refine Int64.toInt_ofInt_of_le ?_ ?_
    · split <;> omega
    · split <;> omega

end Near

/-- A text is a number of coins as a node writes it: digits, at most eight of them behind the point,
no exponent, and a minus sign exactly on what is below zero. `n` is its worth in satoshi, and one
amount has many texts. -/
inductive WritesCoins (n : Int) : String → Prop
  | mk (whole fraction : List Char) (spelled : (Json.Numeral.mk whole fraction none).Spelled)
      (places : fraction.length ≤ 8)
      (worth : Nat.ofDigitChars 10 (whole ++ fraction) 0 * 10 ^ (8 - fraction.length) =
        n.natAbs) :
      WritesCoins n (String.ofList
        (Json.signChars (decide (n < 0)) ++ (Json.Numeral.mk whole fraction none).chars))

/-- A text of an amount is read as a number near the amount. -/
theorem WritesCoins.exists_parse? {n : Int} {text : String} (h : WritesCoins n text)
    (hn : n.natAbs ≤ Amount.supply) :
    ∃ number, Json.parse? text = some (.number number) ∧
      (Decode.realOfNumber number).negative = decide (n < 0) ∧
      (Decode.realOfNumber number).Near ((n.natAbs : ℚ) / (10 ^ 8 : Nat)) := by
  obtain ⟨whole, fraction, spelled, places, worth⟩ := h
  have hscale := Nat.le_mul_of_pos_right (Nat.ofDigitChars 10 (whole ++ fraction) 0)
    (Nat.pow_pos (n := 8 - fraction.length) (by decide : 0 < 10))
  have hsupply : Amount.supply < 2 ^ 53 := by decide
  obtain ⟨number, hparse, hsign, hnear⟩ := Json.exists_parse? (decide (n < 0)) spelled rfl
    (by dsimp only; omega) (by dsimp only; omega) (by
      intro hnegative
      have hlt : n < 0 := of_decide_eq_true hnegative
      refine Nat.pos_of_ne_zero fun hzero => ?_
      rw [hzero, Nat.zero_mul] at worth
      omega)
  refine ⟨number, hparse, hsign, ?_⟩
  have hq : (Nat.ofDigitChars 10 (whole ++ fraction) 0 : ℚ) / (10 ^ fraction.length : Nat) =
      (n.natAbs : ℚ) / (10 ^ 8 : Nat) := by
    have hpow : 10 ^ (8 - fraction.length) * 10 ^ fraction.length = 10 ^ 8 := by
      rw [← Nat.pow_add]
      congr 1
      omega
    rw [← worth, ← hpow]
    push_cast
    field_simp
  exact hq ▸ hnear

/-- A text of an amount is decoded to the amount, where it may not be negative if it is not, and
where it may. -/
theorem WritesCoins.decode {n : Int} {text : String} (h : WritesCoins n text)
    (hn : n.natAbs ≤ Amount.supply) :
    ∃ number, Json.parse? text = some (.number number) ∧
      (0 ≤ n → ∃ a, Amount.ofCoins (Decode.realOfNumber number) = .ok a ∧ a.sat.toNat = n) ∧
      ∃ a, SignedAmount.ofCoins (Decode.realOfNumber number) = .ok a ∧ a.sat.toInt = n := by
  obtain ⟨number, hparse, hsign, hnear⟩ := h.exists_parse? hn
  refine ⟨number, hparse, ?_, ?_⟩
  · intro hpos
    obtain ⟨a, ha, hsat⟩ := amount_of_near hn hnear (by simp [hsign, hpos])
    exact ⟨a, ha, by omega⟩
  · obtain ⟨a, ha, hsat⟩ := signedAmount_of_near hn hnear
    refine ⟨a, ha, ?_⟩
    rw [hsat]
    simp only [hsign, decide_eq_true_eq]
    split <;> omega

/-! ## Records of amounts

The three places where a single amount is the whole answer or a field of it. The mempool entry has
one of each kind, and the modified one is the field in which an amount below zero is usual. -/

/-- A pool entry with its two fees, as a node writes it. -/
theorem decode_mempoolEntry {fee modifiedFee : Json} {a : Amount} {s : SignedAmount}
    (hfee : Shape.coins.decode fee = .ok a)
    (hmodified : Shape.signedCoins.decode modifiedFee = .ok s) (size time height : UInt64) :
    MempoolEntry.shape.decode (.object [("fee", fee), ("height", .word height),
      ("modifiedfee", modifiedFee), ("size", .word size), ("time", .word time)]) =
        .ok ⟨size, a, s, time, height, []⟩ := by
  refine decode_record (size, a, s, time, height, [], ()) ?_ ?_
  · simp only [List.forall_mem_cons]
    refine ⟨?_, ?_, ?_, ?_, ?_, fun _ h => absurd h List.not_mem_nil⟩
    · exact (checkMember_ne (by decide) _).trans (checkMember_self hfee)
    · exact (checkMember_ne (by decide) _).trans <| (checkMember_ne (by decide) _).trans <|
        (checkMember_ne (by decide) _).trans <| (checkMember_ne (by decide) _).trans <|
          checkMember_self (decode_word height)
    · exact (checkMember_ne (by decide) _).trans <| (checkMember_ne (by decide) _).trans <|
        checkMember_self hmodified
    · exact checkMember_self (decode_word size)
    · exact (checkMember_ne (by decide) _).trans <| (checkMember_ne (by decide) _).trans <|
        (checkMember_ne (by decide) _).trans <| checkMember_self (decode_word time)
  · exact ofMembers_member rfl (decode_word size) <| ofMembers_member rfl hfee <|
      ofMembers_member rfl hmodified <| ofMembers_member rfl (decode_word time) <|
        ofMembers_member rfl (decode_word height) <| ofMembers_absent rfl <| by
          rw [Fields.ofMembers]

/-- **Amounts are received exactly.** A text of an amount of the supply, read as JSON, is decoded to
that very amount: as a field that holds an amount and as the unconfirmed balance if it is not
negative, and as a field that holds a signed amount and as a balance in any case.

That the text is read and the value is decoded is part of the statement. An entry of the mempool is
the record with both kinds of fields, and holds for any two texts. -/
theorem received_amounts_exact {n : Int} {text : String} (h : WritesCoins n text)
    (hn : n.natAbs ≤ Amount.supply) :
    ∃ value, Json.parse? text = some value ∧
      (0 ≤ n → ∃ a : Amount, a.sat.toNat = n ∧ Shape.coins.decode value = .ok a ∧
        Node.unconfirmedBalance.read (.ok value) = .ok a) ∧
      (∃ a : SignedAmount, a.sat.toInt = n ∧ Shape.signedCoins.decode value = .ok a ∧
        ∀ account minConfirmations includeWatchOnly,
          (Node.balance account minConfirmations includeWatchOnly).read (.ok value) = .ok a) ∧
      ∀ {fee : Int} {feeText : String}, WritesCoins fee feeText → 0 ≤ fee →
        fee ≤ Amount.supply → ∃ feeValue, Json.parse? feeText = some feeValue ∧
          ∀ size time height : UInt64, ∃ entry : MempoolEntry,
            MempoolEntry.shape.decode (.object [("fee", feeValue), ("height", .word height),
              ("modifiedfee", value), ("size", .word size), ("time", .word time)]) = .ok entry ∧
            entry.fee.sat.toNat = fee ∧ entry.modifiedFee.sat.toInt = n := by
  -- the text is read once, and each kind of amount is decoded from the same number
  obtain ⟨number, hparse, hamount, s, hs, hssat⟩ := h.decode hn
  have hsigned : Shape.signedCoins.decode (.number number) = .ok s := by
    simp [Shape.decode, Decode.signedCoins, Decode.real, bind, Except.bind, hs, Except.mapError]
  refine ⟨.number number, hparse, ?_, ?_, ?_⟩
  · intro hpos
    obtain ⟨a, ha, hasat⟩ := hamount hpos
    refine ⟨a, hasat, ?_, ?_⟩
    · simp [Shape.decode, Decode.coins, Decode.real, bind, Except.bind, ha, Except.mapError]
    · simp [Node.unconfirmedBalance, Operation.andThen, Operation.ask, Outcome.decode,
        Shape.decode, Decode.real, Except.bind, Node.readAmount, ha, Except.mapError]
  · refine ⟨s, hssat, hsigned, ?_⟩
    intro account minConfirmations includeWatchOnly
    simp [Node.balance, Operation.andThen, Operation.ask, Outcome.decode,
      Shape.decode, Decode.real, Except.bind, Node.readSignedAmount, hs, Except.mapError]
  · intro fee feeText hfee hpos hsupply
    obtain ⟨feeNumber, hfeeParse, hfeeAmount, -⟩ := hfee.decode (by omega)
    obtain ⟨a, ha, hasat⟩ := hfeeAmount hpos
    have hcoins : Shape.coins.decode (.number feeNumber) = .ok a := by
      simp [Shape.decode, Decode.coins, Decode.real, bind, Except.bind, ha, Except.mapError]
    refine ⟨.number feeNumber, hfeeParse, ?_⟩
    intro size time height
    exact ⟨_, decode_mempoolEntry hcoins hsigned size time height, hasat, hssat⟩

/-- For one: a fee with zeros at its end, lowered below zero. -/
theorem received_lowered_fee :
    ∃ fee modifiedFee, Json.parse? "0.00001000" = some fee ∧
      Json.parse? "-0.00002" = some modifiedFee ∧ ∃ entry : MempoolEntry,
        MempoolEntry.shape.decode (.object [("fee", fee), ("height", .word 120),
          ("modifiedfee", modifiedFee), ("size", .word 191), ("time", .word 1700000000)]) =
            .ok entry ∧
        entry.fee.sat.toNat = 1000 ∧ entry.modifiedFee.sat.toInt = -2000 := by
  have hfee : WritesCoins 1000 "0.00001000" :=
    .mk ['0'] ['0', '0', '0', '0', '1', '0', '0', '0']
      ⟨by simp, by simp, by simp, by simp, by simp⟩ (by decide) (by decide)
  have hmodified : WritesCoins (-2000) "-0.00002" :=
    .mk ['0'] ['0', '0', '0', '0', '2']
      ⟨by simp, by simp, by simp, by simp, by simp⟩ (by decide) (by decide)
  obtain ⟨modifiedFee, hparse, -, -, hrecord⟩ := received_amounts_exact hmodified (by decide)
  obtain ⟨fee, hparse2, hentry⟩ := hrecord hfee (by decide) (by decide)
  obtain ⟨entry, hdecode, hfeeSat, hmodifiedSat⟩ := hentry 191 1700000000 120
  refine ⟨fee, modifiedFee, hparse2, hparse, entry, hdecode, ?_, hmodifiedSat⟩
  exact_mod_cast hfeeSat

end NodeRpc
