import NodeRpc.Node.Submission
import NodeRpc.Proofs.Call.KeyIdentity
import NodeRpc.Proofs.Chain.Satoshi

/-!
# Amounts are sent exactly

An amount leaves as a binary64 number of coins, and no binary fraction is a number of satoshi. Still
nothing is lost: what the node reads is not the binary64 number but its text, and up to the supply
the shortest decimal of the number nearest to an amount is the amount (`shortest_of_satoshi`). So
the text of the parameter, read as an exact decimal, is worth the amount (`worth_json`).

"Exactly" has to be said of the text for this reason. The number that is sent for a tenth of a coin
is not a tenth, and a statement about its value could only be one about how close it is. Nor would
it do to read the text with the reader of the program, which makes a binary64 number of it again.
`Worth` reads the literal as a rational.

Two amounts are then never taken for one: their texts differ, so the parameters do, and so do the
keys of the requests. In the outputs of a transaction, which go by address, it is the last amount
for each address that is sent and told apart (`lookup_sortMembers`). What happens to the amounts
before it is the subject of `NodeRpc.Proofs.Chain.OutputsSent`.
-/

namespace NodeRpc

namespace Json

/-- A literal with its sign, read as an exact decimal. -/
def Literal.signedWorth (l : Literal) : ℚ := if l.negative then -l.worth else l.worth

/-- A text is a JSON number, and read as an exact decimal it is worth `q`. No binary64 number is
made of it on the way, so nothing can be rounded. -/
def Worth (text : List Char) (q : ℚ) : Prop :=
  ∃ l : Literal, Literal.read text = .ok (l, []) ∧ l.signedWorth = q

theorem Worth.unique {text : List Char} {p q : ℚ} (hp : Worth text p) (hq : Worth text q) :
    p = q := by
  obtain ⟨l, hread, rfl⟩ := hp
  obtain ⟨m, hread2, rfl⟩ := hq
  rw [hread] at hread2
  obtain ⟨hlit, -⟩ := Prod.mk.inj (Except.ok.inj hread2)
  rw [hlit]

/-- The text of a binary64 number is worth its shortest decimal. -/
theorem worth_real {x : Binary64} (hsign : x.negative = false) :
    Worth (chars (.number (.real x))) (x.shortest .even).value := by
  have hread := read_chars (.real x) valueEnds_nil.numeralEnds
  rw [List.append_nil] at hread
  refine ⟨_, hread, ?_⟩
  unfold Literal.signedWorth
  rw [if_neg (by simp [Numeral.literal, isSigned, hsign])]
  exact worth_numeralOf _ _

end Json

namespace Amount

/-- The amount is one that can come to be. The bound is the number of all coins, and an amount above
it is a mistake of somebody. -/
def InSupply (a : Amount) : Prop := a.sat.toNat ≤ supply

instance (a : Amount) : Decidable a.InSupply := inferInstanceAs (Decidable (_ ≤ _))

/-- The exact number of coins. -/
def coins (a : Amount) : ℚ := a.sat.toNat / 10 ^ 8

theorem coins_injective {a b : Amount} (h : a.coins = b.coins) : a = b := by
  unfold coins at h
  rw [div_left_inj' (by norm_num), Nat.cast_inj] at h
  cases a
  cases b
  exact congrArg Amount.mk (UInt64.toNat_inj.mp h)

/-- The binary64 number sent for an amount is near the amount. -/
theorem near_toCoins (a : Amount) :
    a.toCoins.negative = false ∧ a.toCoins.Near ((a.sat.toNat : ℚ) / (10 ^ 8 : Nat)) := by
  have hplaces : 0 < tenPow places := by decide
  obtain ⟨x, hx, hsign, hnear⟩ :=
    Binary64.exists_near_ofRatio? false hplaces a.sat.toNat_lt
  have htoCoins : a.toCoins = x := by
    unfold toCoins
    rw [hx, Option.getD_some]
  rw [htoCoins]
  exact ⟨hsign, hnear⟩

/-- **The text sent for an amount is worth the amount.** The number behind the text is not, in
general; it is only so near that no shorter decimal could be meant. -/
theorem worth_json {a : Amount} (ha : a.InSupply) : Json.Worth a.json.chars a.coins := by
  obtain ⟨hsign, hnear⟩ := a.near_toCoins
  obtain ⟨hvalue, -⟩ := Binary64.shortest_of_satoshi ha hnear .even
  have hworth := Json.worth_real hsign
  rw [hvalue] at hworth
  have hcoins : a.coins = (a.sat.toNat : ℚ) / (10 ^ 8 : Nat) := by
    unfold coins
    push_cast
    rfl
  rw [hcoins]
  exact hworth

/-- What is sent tells amounts apart. -/
theorem json_injective {a b : Amount} (ha : a.InSupply) (hb : b.InSupply) (h : a.json = b.json) :
    a = b := by
  have hworth := worth_json hb
  rw [← h] at hworth
  exact coins_injective ((worth_json ha).unique hworth)

end Amount

namespace Node

/-- The amount sent for an address is the last of those given for it. -/
theorem lookup_outputsJson (outputs : List (String × Amount)) (address : String) :
    ∃ members, outputsJson outputs = .object members ∧
      members.lookup address = (outputs.reverse.lookup address).map Amount.json := by
  refine ⟨_, rfl, ?_⟩
  rw [Json.lookup_sortMembers, ← List.map_reverse]
  induction outputs.reverse with
  | nil => rfl
  | cons output rest ih =>
    rw [List.map_cons]
    by_cases h : address = output.1
    · rw [h, Json.lookup_cons_of_eq, List.lookup_cons, beq_self_eq_true]
      rfl
    · rw [Json.lookup_cons_of_ne h, List.lookup_cons, beq_false_of_ne h]
      exact ih

/-- Outputs that are sent alike have the same amount for each address. -/
theorem lookup_eq_of_outputsJson {outputs others : List (String × Amount)}
    (houtputs : ∀ output ∈ outputs, output.2.InSupply)
    (hothers : ∀ output ∈ others, output.2.InSupply)
    (h : (outputsJson outputs).sorted = (outputsJson others).sorted) (address : String) :
    outputs.reverse.lookup address = others.reverse.lookup address := by
  obtain ⟨ms, hms, hlookup⟩ := lookup_outputsJson outputs address
  obtain ⟨ns, hns, hlookup2⟩ := lookup_outputsJson others address
  rw [hms, hns] at h
  -- sorting keeps what each address is sent
  have hsorted := Json.sortedMembers_eq_iff.mp (Json.object.inj h) address
  rw [hlookup, hlookup2, Option.map_map, Option.map_map] at hsorted
  have hmem : ∀ {outputs : List (String × Amount)} {a : Amount},
      outputs.reverse.lookup address = some a → ∃ output ∈ outputs, output.2 = a := by
    intro outputs a hfound
    obtain ⟨before, after, hsplit, -⟩ := List.lookup_eq_some_iff.mp hfound
    refine ⟨(address, a), List.mem_reverse.mp ?_, rfl⟩
    simp [hsplit]
  cases hfound : outputs.reverse.lookup address with
  | none =>
    rw [hfound] at hsorted
    exact (Option.map_eq_none_iff.mp hsorted.symm).symm
  | some a =>
    rw [hfound] at hsorted
    obtain ⟨b, hfound2, hjson⟩ := Option.map_eq_some_iff.mp hsorted.symm
    obtain ⟨output, hin, rfl⟩ := hmem hfound
    obtain ⟨other, hin2, rfl⟩ := hmem hfound2
    rw [hfound2, Amount.json_injective (houtputs output hin) (hothers other hin2) hjson.symm]

/-- **Amounts are sent exactly.** Up to the supply the number sent for an amount, read as an exact
decimal, is the amount: where an address is paid, where the fee is set, and for each address of the
outputs of a transaction. So requests that differ in an amount have different keys, whatever else
they have in common, and two callers who pay different amounts never share an answer.

Outputs are compared by what is looked up for an address from the end of the list, as an address may
be given more than once. -/
theorem sent_amounts_exact {a b : Amount} {outputs others : List (String × Amount)}
    (ha : a.InSupply) (hb : b.InSupply) (houtputs : ∀ output ∈ outputs, output.2.InSupply)
    (hothers : ∀ output ∈ others, output.2.InSupply) :
    (∀ address comment commentTo, ∃ v,
      (sendToAddress address a comment commentTo).params[1]? = some v ∧
        Json.Worth v.chars a.coins) ∧
    (∃ v, (setTxFee a).params = [v] ∧ Json.Worth v.chars a.coins) ∧
    (∀ inputs, ∃ members,
      (createRawTransaction inputs outputs).params[1]? = some (.object members) ∧
        ∀ address c, outputs.reverse.lookup address = some c →
          ∃ v, members.lookup address = some v ∧ Json.Worth v.chars c.coins) ∧
    (∀ address comment commentTo address' comment' commentTo',
      (sendToAddress address a comment commentTo).key =
        (sendToAddress address' b comment' commentTo').key → a = b) ∧
    ((setTxFee a).key = (setTxFee b).key → a = b) ∧
    (∀ inputs inputs',
      (createRawTransaction inputs outputs).key = (createRawTransaction inputs' others).key →
        ∀ address, outputs.reverse.lookup address = others.reverse.lookup address) := by
  refine ⟨?_, ?_, ?_, ?_, ?_, ?_⟩
  · intro address comment commentTo
    exact ⟨a.json, rfl, Amount.worth_json ha⟩
  · exact ⟨a.json, rfl, Amount.worth_json ha⟩
  · intro inputs
    refine ⟨_, rfl, ?_⟩
    intro address c hc
    obtain ⟨members, hmembers, hlookup⟩ := lookup_outputsJson outputs address
    -- what is found for the address is one of the outputs, so its amount is in the supply
    obtain ⟨before, after, hsplit, -⟩ := List.lookup_eq_some_iff.mp hc
    have hin : (address, c) ∈ outputs := List.mem_reverse.mp (by simp [hsplit])
    rw [hc] at hlookup
    rw [← Json.object.inj hmembers] at hlookup
    exact ⟨c.json, hlookup, Amount.worth_json (houtputs _ hin)⟩
  · intro address comment commentTo address' comment' commentTo' hkey
    obtain ⟨-, hparams⟩ := RequestKey.ofCall_eq_iff_sorted.mp hkey
    have hsecond : a.json.sorted = b.json.sorted := (List.cons.inj (List.cons.inj hparams).2).1
    exact Amount.json_injective ha hb hsecond
  · intro hkey
    obtain ⟨-, hparams⟩ := RequestKey.ofCall_eq_iff_sorted.mp hkey
    have hfirst : a.json.sorted = b.json.sorted := (List.cons.inj hparams).1
    exact Amount.json_injective ha hb hfirst
  · intro inputs inputs' hkey
    obtain ⟨-, hparams⟩ := RequestKey.ofCall_eq_iff_sorted.mp hkey
    have hsecond : (outputsJson outputs).sorted = (outputsJson others).sorted :=
      (List.cons.inj (List.cons.inj hparams).2).1
    exact lookup_eq_of_outputsJson houtputs hothers hsecond

/-- For one: half a thousandth of a coin is paid exactly, and a fee of a satoshi more is another
request. -/
theorem sent_half_thousandth :
    (∃ v, (sendToAddress "mzYbQ5eh" ⟨50000⟩ none none).params[1]? = some v ∧
      Json.Worth v.chars (Amount.coins ⟨50000⟩)) ∧
    (setTxFee ⟨50000⟩).key ≠ (setTxFee ⟨50001⟩).key := by
  have ha : Amount.InSupply ⟨50000⟩ := by decide
  have hb : Amount.InSupply ⟨50001⟩ := by decide
  have houtputs : ∀ output ∈ [("mzYbQ5eh", Amount.mk 50000)], output.2.InSupply := by decide
  obtain ⟨hpaid, -, -, -, hfee, -⟩ := sent_amounts_exact ha hb houtputs houtputs
  exact ⟨hpaid "mzYbQ5eh" none none, fun hkey => absurd (hfee hkey) (by decide)⟩

end Node
end NodeRpc
