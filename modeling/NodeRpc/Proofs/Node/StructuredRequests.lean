import NodeRpc.Node.Address
import NodeRpc.Node.Freezing
import NodeRpc.Node.Mining
import NodeRpc.Proofs.Chain.AmountsSent

/-!
# Structured requests lose nothing

Some requests carry records and lists of records, a few levels deep, and an option of a record that
is left out has no member at all. The dispatcher merges two such requests if their keys are equal,
and in a key the members are sorted. So what matters of the way a value is sent is that it tells
values apart, whatever order members stand in (`TellsApart`).

That is shown along the structure of what is sent. Words, texts and hashes are told apart by
themselves, lists by their items in their order, and records by their parts: a part stands under a
name of its own and nowhere else, so two objects that are the same have the same parts
(`same_parts`), and a part that is left out is different from each that is there.

A part that was forgotten, or sent under the name of another, would let two different requests have
one key, and one of the two callers would get the answer to what the other asked. That is the harm
that the theorem excludes, and it excludes it for any values of the arguments. It does not say how a
record is laid out. Two layouts that tell the same records apart are equally good to it, and which
of them a node understands is written in the definitions and nowhere proved.
-/

namespace NodeRpc

namespace Json

variable {α : Type}

/-- No two values are sent alike, whatever order members stand in. Being sent alike is being the
same as JSON, as two requests with one key are. -/
def TellsApart (send : α → Json) : Prop := ∀ ⦃a b : α⦄, Same (send a) (send b) → a = b

/-! ## Scalars and lists

A word, a text, a boolean and a hash are each sent as a scalar, and two scalars are the same if they
are equal. For a hash this needs that its bytes can be had back from its digits. -/

theorem tellsApart_text : TellsApart text := by
  intro s t h
  cases h
  rfl

theorem tellsApart_bool : TellsApart bool := by
  intro b c h
  cases h
  rfl

theorem tellsApart_word : TellsApart word := by
  intro m n h
  -- scalars are not touched by sorting
  have hnumber : word m = word n := (sorted_eq_iff _ _).mpr h
  simpa [word, Number.ofUInt64, UInt64.toNat_inj] using hnumber

theorem tellsApart_word32 : TellsApart word32 := by
  intro m n h
  exact UInt32.toUInt64_inj.mp (tellsApart_word h)

theorem bytesOfHex?_hexOfBytes (bytes : List UInt8) :
    Text.bytesOfHex? (Text.hexOfBytes bytes) = some bytes := by
  induction bytes with
  | nil => rfl
  | cons b bytes ih =>
    have hlt := b.toNat_lt
    have hhigh := hexValue_hexDigit (n := b.toNat / 16) (by omega)
    have hlow := hexValue_hexDigit (n := b.toNat % 16) (by omega)
    unfold Text.hexOfBytes at ih ⊢
    rw [List.flatMap_cons, List.cons_append, List.cons_append, List.nil_append,
      Text.bytesOfHex?, hhigh, hlow, ih]
    dsimp only [bind, Option.bind, pure]
    rw [Nat.div_add_mod, UInt8.ofNat_toNat]

theorem tellsApart_hash : TellsApart hash := by
  intro a b h
  have htext : a.text = b.text := tellsApart_text h
  have hbytes := congrArg Text.bytesOfHex? (String.ofList_injective htext)
  unfold Hash.hex at hbytes
  rw [bytesOfHex?_hexOfBytes, bytesOfHex?_hexOfBytes] at hbytes
  cases a
  cases b
  simpa using hbytes

section Composite

variable {send : α → Json} (h : TellsApart send)

include h

/-- Lists are told apart item by item, so by the order and the number of their items too. -/
theorem TellsApart.list : TellsApart fun items : List α => .array (items.map send) := by
  intro xs ys hsame
  cases hsame with
  | array hitems =>
    rw [List.forall₂_map_left_iff, List.forall₂_map_right_iff] at hitems
    exact List.forall₂_eq_eq_eq ▸ hitems.imp fun _ _ hitem => h hitem

/-- A part that is always there. -/
theorem TellsApart.part {a b : α} (hrel : Option.Rel Same (some (send a)) (some (send b))) :
    a = b :=
  h (Option.rel_some_some.mp hrel)

/-- A part that is left out is different from each that is there. -/
theorem TellsApart.option {a b : Option α}
    (hrel : Option.Rel Same (a.map send) (b.map send)) : a = b := by
  cases a with
  | none =>
    cases b with
    | none => rfl
    | some b => cases hrel
  | some a =>
    cases b with
    | none => cases hrel
    | some b => rw [h.part hrel]

end Composite

/-! ## Records

The general argument, for any list of parts with distinct names. That an option is left out is seen
in the object by looking up its name and finding nothing. -/

/-- The parts of a record by their names; one that is not there has no member. All parts are sent as
JSON, so they are one type whatever they hold. -/
abbrev Parts (α : Type) := List (String × (α → Option Json))

/-- The members that a record has. -/
def Parts.members (parts : Parts α) (a : α) : List (String × Json) :=
  present (parts.map fun part => (part.1, part.2 a))

section Parts

variable (parts : Parts α) (hnames : (parts.map Prod.fst).Nodup)

include hnames

theorem Parts.nodup_members (a : α) : ((parts.members a).map Prod.fst).Nodup := by
  induction parts with
  | nil => exact List.nodup_nil
  | cons part parts ih =>
    obtain ⟨name, send⟩ := part
    rw [List.map_cons, List.nodup_cons] at hnames
    obtain ⟨hname, hnames⟩ := hnames
    cases hsend : send a with
    | none =>
      have hmembers : Parts.members ((name, send) :: parts) a = Parts.members parts a := by
        simp [Parts.members, present, hsend]
      rw [hmembers]
      exact ih hnames
    | some value =>
      have hmembers : Parts.members ((name, send) :: parts) a =
          (name, value) :: Parts.members parts a := by
        simp [Parts.members, present, hsend]
      rw [hmembers, List.map_cons, List.nodup_cons]
      refine ⟨?_, ih hnames⟩
      -- a member has the name of one of the parts
      intro hmem
      obtain ⟨member, hmember, rfl⟩ := List.mem_map.mp hmem
      simp only [Parts.members, present, List.mem_filterMap, List.mem_map] at hmember
      obtain ⟨_, ⟨other, hother, rfl⟩, hvalue⟩ := hmember
      obtain ⟨_, -, rfl⟩ := Option.map_eq_some_iff.mp hvalue
      have hin : other.1 ∈ parts.map Prod.fst := List.mem_map_of_mem hother
      exact hname hin

/-- **What stands under the name of a part is that part.** If it is left out nothing stands there,
and no other part could, as the names are distinct. -/
theorem Parts.lookup_members (a : α) {part : String × (α → Option Json)} (hpart : part ∈ parts) :
    (sortMembers (parts.members a)).lookup part.1 = part.2 a := by
  have hnodup := Parts.nodup_members parts hnames a
  rw [lookup_sortMembers_of_nodup hnodup]
  apply Option.ext
  intro value
  rw [lookup_eq_some_iff hnodup]
  simp only [Parts.members, present, List.mem_filterMap, List.mem_map]
  constructor
  · rintro ⟨_, ⟨other, hother, rfl⟩, hvalue⟩
    obtain ⟨_, hsome, heq⟩ := Option.map_eq_some_iff.mp hvalue
    obtain ⟨hname, rfl⟩ := Prod.mk.inj heq
    rwa [List.inj_on_of_nodup_map hnames hother hpart hname] at hsome
  · intro hvalue
    exact ⟨_, ⟨part, hpart, rfl⟩, by rw [hvalue]; rfl⟩

/-- **Records that are sent alike have the same parts.** The same up to the order of members inside
them, which is all that can be known from objects that are the same. -/
theorem same_parts {a b : α}
    (h : Same (.ofMembers (parts.members a)) (.ofMembers (parts.members b))) :
    ∀ part ∈ parts, Option.Rel Same (part.2 a) (part.2 b) := by
  intro part hpart
  unfold ofMembers at h
  cases h with
  | object hmembers =>
    have hrel := hmembers part.1
    rwa [Parts.lookup_members parts hnames a hpart, Parts.lookup_members parts hnames b hpart]
      at hrel

end Parts
end Json

open Json

/-! ## The records that are sent

For each record its parts, and that the record is determined by them. What is proved here about one
record is only the last step, from equal parts to equal records. -/

def EnforceRange.parts : Parts EnforceRange :=
  [("start", fun range => some (.word range.start)),
   ("stop", fun range => range.stop.map .word)]

theorem EnforceRange.tellsApart_json : TellsApart EnforceRange.json := by
  intro a b h
  have hparts := same_parts EnforceRange.parts (by decide) h
  simp only [EnforceRange.parts, List.forall_mem_cons] at hparts
  obtain ⟨hstart, hstop, -⟩ := hparts
  cases a
  cases b
  rw [EnforceRange.mk.injEq]
  exact ⟨tellsApart_word.part hstart, tellsApart_word.option hstop⟩

def FrozenOutpoint.parts : Parts FrozenOutpoint :=
  [("txId", fun outpoint => some (.hash outpoint.txid)),
   ("vout", fun outpoint => some (.word32 outpoint.vout))]

theorem FrozenOutpoint.tellsApart_json : TellsApart FrozenOutpoint.json := by
  intro a b h
  have hparts := same_parts FrozenOutpoint.parts (by decide) h
  simp only [FrozenOutpoint.parts, List.forall_mem_cons] at hparts
  obtain ⟨htxid, hvout, -⟩ := hparts
  cases a
  cases b
  rw [FrozenOutpoint.mk.injEq]
  exact ⟨tellsApart_hash.part htxid, tellsApart_word32.part hvout⟩

def FrozenFund.parts : Parts FrozenFund :=
  [("txOut", fun fund => some fund.txOut.json),
   ("enforceAtHeight", fun fund => some (.array (fund.enforceAtHeight.map (·.json)))),
   ("policyExpiresWithConsensus", fun fund => some (.bool fund.policyExpiresWithConsensus))]

theorem FrozenFund.tellsApart_json : TellsApart FrozenFund.json := by
  intro a b h
  have hparts := same_parts FrozenFund.parts (by decide) h
  simp only [FrozenFund.parts, List.forall_mem_cons] at hparts
  obtain ⟨hout, hranges, hexpires, -⟩ := hparts
  cases a
  cases b
  rw [FrozenFund.mk.injEq]
  exact ⟨FrozenOutpoint.tellsApart_json.part hout,
    EnforceRange.tellsApart_json.list.part hranges, tellsApart_bool.part hexpires⟩

def ConfiscationTx.parts : Parts ConfiscationTx :=
  [("enforceAtHeight", fun tx => some (.word tx.enforceAtHeight)),
   ("hex", fun tx => some (.text tx.hex))]

theorem ConfiscationTx.tellsApart_json : TellsApart ConfiscationTx.json := by
  intro a b h
  have hparts := same_parts ConfiscationTx.parts (by decide) h
  simp only [ConfiscationTx.parts, List.forall_mem_cons] at hparts
  obtain ⟨hheight, hhex, -⟩ := hparts
  cases a
  cases b
  rw [ConfiscationTx.mk.injEq]
  exact ⟨tellsApart_word.part hheight, tellsApart_text.part hhex⟩

def RawSubmission.parts : Parts RawSubmission :=
  [("hex", fun s => some (.text s.hex)),
   ("allowhighfees", fun s => some (.bool s.allowHighFees)),
   ("dontcheckfee", fun s => some (.bool s.dontCheckFee)),
   ("listunconfirmedancestors", fun s => some (.bool s.listUnconfirmedAncestors))]

theorem RawSubmission.tellsApart_json : TellsApart RawSubmission.json := by
  intro a b h
  have hparts := same_parts RawSubmission.parts (by decide) h
  simp only [RawSubmission.parts, List.forall_mem_cons] at hparts
  obtain ⟨hhex, hallow, hdont, hlist, -⟩ := hparts
  cases a
  cases b
  rw [RawSubmission.mk.injEq]
  exact ⟨tellsApart_text.part hhex, tellsApart_bool.part hallow, tellsApart_bool.part hdont,
    tellsApart_bool.part hlist⟩

def MiningSolution.parts : Parts MiningSolution :=
  [("id", fun solution => some (.text solution.id)),
   ("nonce", fun solution => some (.word32 solution.nonce)),
   ("coinbase", fun solution => solution.coinbase.map .text),
   ("time", fun solution => solution.time.map .word32),
   ("version", fun solution => solution.version.map .word32)]

theorem MiningSolution.tellsApart_json : TellsApart MiningSolution.json := by
  intro a b h
  have hparts := same_parts MiningSolution.parts (by decide) h
  simp only [MiningSolution.parts, List.forall_mem_cons] at hparts
  obtain ⟨hid, hnonce, hcoinbase, htime, hversion, -⟩ := hparts
  cases a
  cases b
  rw [MiningSolution.mk.injEq]
  exact ⟨tellsApart_text.part hid, tellsApart_word32.part hnonce,
    tellsApart_text.option hcoinbase, tellsApart_word32.option htime,
    tellsApart_word32.option hversion⟩

/-- An object with a single member tells apart what the member does. -/
theorem Json.TellsApart.wrapped {α : Type} {send : α → Json} (h : TellsApart send)
    (name : String) : TellsApart fun a => .ofMembers [(name, send a)] := by
  intro a b hsame
  have hparts := same_parts [(name, fun a => some (send a))]
    (List.nodup_singleton _) hsame
  simp only [List.forall_mem_cons] at hparts
  exact h.part hparts.1

namespace Node

/-- Two calls of one method with a single parameter each. -/
theorem same_param {α : Type} {op op' : Operation α} {value value' : Json}
    (hop : op.params = [value]) (hop' : op'.params = [value']) (h : op.key = op'.key) :
    Same value value' := by
  obtain ⟨-, hparams⟩ := (RequestKey.ofCall_eq_iff _ _ _ _).mp h
  rw [hop, hop'] at hparams
  exact (List.forall₂_cons.mp hparams).1

/-- **Structured requests lose nothing.** Of the calls that carry lists or records, two have the
same key exactly if they were made with the same arguments. So the dispatcher merges them only if
they ask for the same thing, and nothing of the arguments can be missing in what is sent: arguments
that differ anywhere, in the order or the number of the items of a list, in one part of a record, or
in a part that is there in one of them and left out in the other, are sent differently. -/
theorem structured_requests_lossless :
    (∀ funds funds' : List FrozenFund,
      (addToConsensusBlacklist funds).key = (addToConsensusBlacklist funds').key ↔
        funds = funds') ∧
    (∀ txs txs' : List ConfiscationTx,
      (addToConfiscationWhitelist txs).key = (addToConfiscationWhitelist txs').key ↔
        txs = txs') ∧
    (∀ txs txs' : List RawSubmission,
      (sendRawTransactions txs).key = (sendRawTransactions txs').key ↔ txs = txs') ∧
    (∀ solution solution' : MiningSolution,
      (submitMiningSolution solution).key = (submitMiningSolution solution').key ↔
        solution = solution') ∧
    (∀ (required required' : UInt32) (keys keys' : List String),
      (createMultisig required keys).key = (createMultisig required' keys').key ↔
        required = required' ∧ keys = keys') := by
  refine ⟨?_, ?_, ?_, ?_, ?_⟩
  · intro funds funds'
    refine ⟨fun h => ?_, fun h => by rw [h]⟩
    exact (FrozenFund.tellsApart_json.list.wrapped "funds") (same_param rfl rfl h)
  · intro txs txs'
    refine ⟨fun h => ?_, fun h => by rw [h]⟩
    have hsends := (ConfiscationTx.tellsApart_json.wrapped "confiscationTx").list.wrapped
      "confiscationTxs"
    exact hsends (same_param rfl rfl h)
  · intro txs txs'
    refine ⟨fun h => ?_, fun h => by rw [h]⟩
    exact RawSubmission.tellsApart_json.list (same_param rfl rfl h)
  · intro solution solution'
    refine ⟨fun h => ?_, fun h => by rw [h]⟩
    exact MiningSolution.tellsApart_json (same_param rfl rfl h)
  · intro required required' keys keys'
    constructor
    · intro h
      obtain ⟨-, hparams⟩ := (RequestKey.ofCall_eq_iff _ _ _ _).mp h
      obtain ⟨hrequired, hrest⟩ := List.forall₂_cons.mp hparams
      obtain ⟨hkeys, -⟩ := List.forall₂_cons.mp hrest
      exact ⟨tellsApart_word32 hrequired, tellsApart_text.list hkeys⟩
    · rintro ⟨rfl, rfl⟩
      rfl

end Node
end NodeRpc
