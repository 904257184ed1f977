import NodeRpc.Proofs.Chain.AmountsSent
import Mathlib.Data.List.Forall2

/-!
# What becomes of the outputs of a transaction

Outputs are given as a list and sent by address. An address that is given twice is sent once, with
the amount that was given last, so what was given for it before is not paid to anybody. Each output
given is either kept or replaced (`kept`, `replaced`): the ones that are kept are sent, each
exactly, and the ones that are replaced make up what is missing (`outputs_sent`).

One would expect that a transaction to some outputs pays what was listed. It does so for every list
in which no address occurs twice. For a list in which one does it pays less, without any error,
unless what was replaced is worth nothing: `not_every_output_sent` is that expectation, refuted.
That it happens is a consequence of putting the pairs into a JSON object one by one.

The theorem is an account and not only a warning. It says what is sent, for each address and all
together, and the sums are of exact coins, so that nothing can be missing that `replaced` does not
list. In particular it says exactly when nothing is lost. Addresses are compared as they are
spelled; two spellings of one address are two addresses here as they are in an object.
-/

namespace NodeRpc

section Entries

variable {α β : Type}

/-- The entries that no later entry of the same name replaces. Their order is that of the list. -/
def kept : List (String × α) → List (String × α)
  | [] => []
  | entry :: rest => if entry.1 ∈ rest.map Prod.fst then kept rest else entry :: kept rest

/-- The entries that a later entry of the same name replaces. Every entry is either kept or
replaced. -/
def replaced : List (String × α) → List (String × α)
  | [] => []
  | entry :: rest =>
    if entry.1 ∈ rest.map Prod.fst then entry :: replaced rest else replaced rest

theorem kept_append_replaced (entries : List (String × α)) :
    (kept entries ++ replaced entries).Perm entries := by
  induction entries with
  | nil => exact .nil
  | cons entry rest ih =>
    unfold kept replaced
    split
    · exact List.perm_middle.trans (ih.cons entry)
    · exact ih.cons entry

theorem mem_names_kept {name : String} (entries : List (String × α)) :
    name ∈ (kept entries).map Prod.fst ↔ name ∈ entries.map Prod.fst := by
  induction entries with
  | nil => rfl
  | cons entry rest ih =>
    rw [List.map_cons, List.mem_cons]
    unfold kept
    split
    · rename_i hlater
      rw [ih]
      constructor
      · exact Or.inr
      · rintro (rfl | hrest)
        · exact hlater
        · exact hrest
    · rw [List.map_cons, List.mem_cons, ih]

theorem nodup_names_kept (entries : List (String × α)) : ((kept entries).map Prod.fst).Nodup := by
  induction entries with
  | nil => exact List.nodup_nil
  | cons entry rest ih =>
    unfold kept
    split
    · exact ih
    · rename_i hnew
      exact List.nodup_cons.mpr ⟨fun h => hnew ((mem_names_kept rest).mp h), ih⟩

theorem replaced_of_nodup {entries : List (String × α)} (h : (entries.map Prod.fst).Nodup) :
    replaced entries = [] := by
  induction entries with
  | nil => rfl
  | cons entry rest ih =>
    rw [List.map_cons, List.nodup_cons] at h
    unfold replaced
    rw [if_neg h.1]
    exact ih h.2

theorem kept_map (f : α → β) (entries : List (String × α)) :
    kept (entries.map fun entry => (entry.1, f entry.2)) =
      (kept entries).map fun entry => (entry.1, f entry.2) := by
  induction entries with
  | nil => rfl
  | cons entry rest ih =>
    have hnames : (rest.map fun entry => (entry.1, f entry.2)).map Prod.fst =
        rest.map Prod.fst := by
      rw [List.map_map]
      rfl
    rw [List.map_cons, kept, kept, hnames, ih]
    split
    · rfl
    · rfl

theorem lookup_reverse_eq_none_iff {entries : List (String × α)} {name : String} :
    entries.reverse.lookup name = none ↔ name ∉ entries.map Prod.fst := by
  rw [List.lookup_eq_none_iff]
  constructor
  · intro h hname
    obtain ⟨entry, hentry, rfl⟩ := List.mem_map.mp hname
    exact bne_iff_ne.mp (h entry (List.mem_reverse.mpr hentry)) rfl
  · intro h entry hentry
    refine bne_iff_ne.mpr ?_
    rintro rfl
    exact h (List.mem_map_of_mem (List.mem_reverse.mp hentry))

/-- **An entry is kept if it is the last of its name.** What was given for a name before is
replaced, also if it was the same. -/
theorem mem_kept_iff {entries : List (String × α)} {name : String} {a : α} :
    (name, a) ∈ kept entries ↔ entries.reverse.lookup name = some a := by
  induction entries with
  | nil => simp [kept]
  | cons entry rest ih =>
    obtain ⟨other, b⟩ := entry
    rw [List.reverse_cons, List.lookup_append, Option.or_eq_some_iff, ← ih, kept,
      lookup_reverse_eq_none_iff, List.lookup_cons]
    by_cases hother : name = other
    · subst hother
      rw [beq_self_eq_true]
      split
      · rename_i hlater
        exact ⟨Or.inl, fun h => h.resolve_right fun hfirst => hfirst.1 hlater⟩
      · rename_i hnew
        have hrest : (name, a) ∉ kept rest := fun h =>
          hnew ((mem_names_kept rest).mp (List.mem_map.mpr ⟨_, h, rfl⟩))
        simp [hrest, hnew, eq_comm]
    · rw [beq_false_of_ne hother]
      split
      · simp
      · simp [hother]

/-- What is a list up to order once it is mapped, is the image of a list that is it up to order. -/
theorem exists_eq_map_of_perm {f : α → β} {xs : List α} {ys : List β}
    (h : ys.Perm (xs.map f)) : ∃ zs : List α, ys = zs.map f ∧ zs.Perm xs := by
  have hcomp : Relation.Comp (· = List.map f ·) (List.Perm) ys xs := by
    rw [List.eq_map_comp_perm]
    exact h
  exact hcomp

end Entries

/-- **Members that are sorted are those that are kept.** Up to their order, that is; so nothing
about the kept ones has to be proved by way of sorting. -/
theorem Json.perm_sortMembers (members : List (String × Json)) :
    (sortMembers members).Perm (kept members) := by
  have hsorted := (ordered_sortMembers members).names_nodup
  have hkept := nodup_names_kept members
  rw [List.perm_ext_iff_of_nodup hsorted.of_map hkept.of_map]
  rintro ⟨name, value⟩
  rw [← lookup_eq_some_iff hsorted, lookup_sortMembers, mem_kept_iff]

namespace Amount

theorem coins_nonneg (a : Amount) : 0 ≤ a.coins := div_nonneg (Nat.cast_nonneg _) (by norm_num)

theorem coins_eq_zero_iff (a : Amount) : a.coins = 0 ↔ a.sat = 0 := by
  unfold coins
  rw [div_eq_zero_iff, Nat.cast_eq_zero, ← UInt64.toNat_inj]
  simp

end Amount

namespace Node

/-- The coins of outputs, all together. -/
def total (outputs : List (String × Amount)) : ℚ := (outputs.map (·.2.coins)).sum

/-- The coins of the outputs for an address. -/
def totalFor (address : String) (outputs : List (String × Amount)) : ℚ :=
  total (outputs.filter (·.1 = address))

theorem total_append (outputs more : List (String × Amount)) :
    total (outputs ++ more) = total outputs + total more := by
  unfold total
  rw [List.map_append, List.sum_append]

theorem total_perm {outputs others : List (String × Amount)} (h : outputs.Perm others) :
    total outputs = total others :=
  (h.map _).sum_eq

theorem totalFor_perm {outputs others : List (String × Amount)} (h : outputs.Perm others)
    (address : String) : totalFor address outputs = totalFor address others :=
  total_perm (h.filter _)

theorem total_nonneg (outputs : List (String × Amount)) : 0 ≤ total outputs := by
  refine List.sum_nonneg ?_
  intro q hq
  obtain ⟨output, -, rfl⟩ := List.mem_map.mp hq
  exact output.2.coins_nonneg

/-- Outputs are worth nothing exactly if each of them is. -/
theorem total_eq_zero_iff (outputs : List (String × Amount)) :
    total outputs = 0 ↔ ∀ output ∈ outputs, output.2.sat = 0 := by
  induction outputs with
  | nil => simp [total]
  | cons output rest ih =>
    have hsum : total (output :: rest) = output.2.coins + total rest := List.sum_cons
    rw [hsum, add_eq_zero_iff_of_nonneg output.2.coins_nonneg (total_nonneg rest), ih,
      Amount.coins_eq_zero_iff, List.forall_mem_cons]

/-- The members that are sent are the outputs that are kept. -/
theorem exists_paid (outputs : List (String × Amount)) : ∃ paid : List (String × Amount),
    outputsJson outputs = .object (paid.map fun output => (output.1, output.2.json)) ∧
      paid.Perm (kept outputs) := by
  have hperm := Json.perm_sortMembers (outputs.map fun output => (output.1, output.2.json))
  rw [kept_map] at hperm
  obtain ⟨paid, hpaid, hkept⟩ := exists_eq_map_of_perm hperm
  exact ⟨paid, congrArg Json.object hpaid, hkept⟩

/-- **What becomes of outputs.** Each address is sent once, with the amount that was given for it
last, exactly. What else was given for an address is not sent: for each of them and all together,
what is sent and what was replaced make up what was given. So nothing is lost exactly if all that
was replaced is worth nothing, and this is so if no address is given twice.

The amounts are of the supply each. Their sum need not be, since nobody adds them up before they are
sent. -/
theorem outputs_sent {outputs : List (String × Amount)}
    (houtputs : ∀ output ∈ outputs, output.2.InSupply) (inputs : List TxInputRef) :
    ∃ paid : List (String × Amount),
      (createRawTransaction inputs outputs).params[1]? =
        some (.object (paid.map fun output => (output.1, output.2.json))) ∧
      (∀ output ∈ paid, Json.Worth output.2.json.chars output.2.coins) ∧
      (paid.map Prod.fst).Nodup ∧
      (∀ address, address ∈ paid.map Prod.fst ↔ address ∈ outputs.map Prod.fst) ∧
      (∀ address amount, (address, amount) ∈ paid ↔
        outputs.reverse.lookup address = some amount) ∧
      (∀ address, totalFor address paid + totalFor address (replaced outputs) =
        totalFor address outputs) ∧
      total paid + total (replaced outputs) = total outputs ∧
      (total paid = total outputs ↔ ∀ output ∈ replaced outputs, output.2.sat = 0) ∧
      ((outputs.map Prod.fst).Nodup → paid.Perm outputs) := by
  obtain ⟨paid, hpaid, hperm⟩ := exists_paid outputs
  -- what is paid and what is replaced make up all that was given, which every sum here follows from
  have hall : (paid ++ replaced outputs).Perm outputs :=
    (hperm.append_right _).trans (kept_append_replaced outputs)
  have hnames := hperm.map Prod.fst
  have htotal : total paid + total (replaced outputs) = total outputs := by
    rw [← total_append]
    exact total_perm hall
  refine ⟨paid, congrArg some hpaid, ?_, ?_, ?_, ?_, ?_, htotal, ?_, ?_⟩
  · intro output houtput
    exact Amount.worth_json (houtputs output (hall.subset (List.mem_append_left _ houtput)))
  · exact hnames.nodup_iff.mpr (nodup_names_kept outputs)
  · intro address
    rw [hnames.mem_iff, mem_names_kept]
  · intro address amount
    rw [hperm.mem_iff, mem_kept_iff]
  · intro address
    rw [← totalFor_perm hall address]
    unfold totalFor
    rw [List.filter_append, total_append]
  · rw [← htotal, left_eq_add, total_eq_zero_iff]
  · intro hnodup
    rw [replaced_of_nodup hnodup, List.append_nil] at hall
    exact hall

/-- An address that is paid twice. -/
def paidTwice : List (String × Amount) := [("mzYbQ5eh", ⟨100000000⟩), ("mzYbQ5eh", ⟨50000000⟩)]

theorem coins_paidTwice : (Amount.mk 100000000).coins = 1 ∧ (Amount.mk 50000000).coins = 1 / 2 := by
  have hcoin : (100000000 : UInt64).toNat = 100000000 := rfl
  have hhalf : (50000000 : UInt64).toNat = 50000000 := rfl
  unfold Amount.coins
  rw [hcoin, hhalf]
  norm_num

/-- Half a coin is sent, and the coin that was given before it is lost. -/
theorem outputs_sent_paidTwice :
    (∀ output ∈ paidTwice, output.2.InSupply) ∧ ∃ paid : List (String × Amount),
      (createRawTransaction [] paidTwice).params[1]? =
        some (.object (paid.map fun output => (output.1, output.2.json))) ∧
      ("mzYbQ5eh", ⟨50000000⟩) ∈ paid ∧
      total paid + 1 = total paidTwice := by
  have houtputs : ∀ output ∈ paidTwice, output.2.InSupply := by decide
  obtain ⟨paid, hsent, -, -, -, hlast, -, htotal, -⟩ := outputs_sent houtputs []
  have hcoin : (Amount.mk 100000000).coins = 1 := coins_paidTwice.1
  have hreplaced : total (replaced paidTwice) = 1 := by
    simpa [paidTwice, replaced, total] using hcoin
  refine ⟨houtputs, paid, hsent, (hlast _ _).mpr rfl, ?_⟩
  rw [← hreplaced]
  exact htotal

/-- What is sent for an address is not all that was given for it. -/
theorem not_every_output_sent :
    ¬∀ (inputs : List TxInputRef) (outputs : List (String × Amount)) (address : String),
      (∀ output ∈ outputs, output.2.InSupply) →
      ∃ members : List (String × Json),
        (createRawTransaction inputs outputs).params[1]? = some (.object members) ∧
        ∃ amounts : List ℚ,
          List.Forall₂ (fun member amount => Json.Worth member.2.chars amount)
            (members.filter (·.1 = address)) amounts ∧
          amounts.sum = totalFor address outputs := by
  intro hall
  obtain ⟨members, hmembers, amounts, hworth, hsum⟩ :=
    hall [] paidTwice "mzYbQ5eh" (by decide)
  have hsent : [("mzYbQ5eh", (Amount.mk 50000000).json)] = members :=
    Json.object.inj (Option.some.inj hmembers)
  subst hsent
  obtain ⟨hcoin, hhalf⟩ := coins_paidTwice
  obtain ⟨amount, rest, hamount, hrest, rfl⟩ := List.forall₂_cons_left_iff.mp hworth
  obtain rfl := List.forall₂_nil_left_iff.mp hrest
  obtain rfl := hamount.unique (Amount.worth_json (by decide))
  have hgiven : totalFor "mzYbQ5eh" paidTwice =
      (Amount.mk 100000000).coins + (Amount.mk 50000000).coins := by
    simp [totalFor, total, paidTwice]
  rw [hgiven, List.sum_singleton, hcoin, hhalf] at hsum
  norm_num at hsum

end Node
end NodeRpc
