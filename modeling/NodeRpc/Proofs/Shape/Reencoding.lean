import NodeRpc.Proofs.Chain.AmountsUnrounded
import NodeRpc.Proofs.Node.StructuredRequests
import NodeRpc.Proofs.Shape.Parts
import NodeRpc.Result.Control
import NodeRpc.Result.Freezing
import NodeRpc.Result.Ledger
import NodeRpc.Result.Mining
import NodeRpc.Result.Submission
import NodeRpc.Shape.Encode

/-!
# Encoding what was decoded

A value may be written in many ways that are decoded alike: members in any order, absent or without
a field, digits of either case, an integer for a fraction, an array for a record. Encoding picks one
of them, and it decodes to the same result again (`Shape.reencodes`).

That is so for every description that is lawful: a record is taken apart into what it was built
from, its names are distinct, what stands for an absent member can be written itself, and what may
be null is told apart from null. These are conditions on the description and none on the value, so
they are checked once for each record, by going through its fields.

The converse is not true and not wanted. To encode what was decoded does not give the value back, as
foreign members are gone and the order is another; it gives a value that means the same. And nothing
is said of results that were made in some other way than by decoding. An amount, for one, may be
above all the coins there are, and there the binary64 number that is written for it may be that of
its neighbour. Amounts that came out of a number go back to it, which is what makes the theorem hold
for all of them without a bound.

The encoding has its members in the order of the fields, and whoever reads it from a text has them
sorted. It is decoded again in both orders.
-/

namespace NodeRpc

/-! ## Lawful descriptions

Each condition is one that a description could fail. A record whose default for an absent member
could not be written would come back with something else, and an option of what may itself be null
would come back as none. -/

/-- What is in the range is held as it is. It is a condition on the two functions between integers
and words. -/
def IntegerKind.Lawful {α : Type} (kind : IntegerKind α) : Prop :=
  ∀ n, kind.least ≤ n → n ≤ kind.greatest → kind.toInt (kind.ofInt n) = n

mutual

/-- What is asked of a description, of every part of it. Scalars that are not integers need
nothing. -/
def Shape.Lawful {α : Type} : Shape α → Prop
  | .integer kind => kind.Lawful
  | .option inner => inner.Lawful ∧ ∀ a, inner.decode .null ≠ .ok a
  | .list item => item.Lawful
  | .record _ fields build apart =>
    (∀ parts, apart (build parts) = parts) ∧ fields.wireNames.Nodup ∧ fields.Lawful
  | .openRecord _ fields build apart =>
    (∀ parts other, apart (build parts other) = (parts, other)) ∧ fields.wireNames.Nodup ∧
      fields.Lawful
  | _ => True

def Fields.Lawful {β : Type} : Fields β → Prop
  | .nil => True
  | .cons _ _ absent shape rest =>
    shape.Lawful ∧ (∀ a, absent = some a → shape.decode (shape.encode a) = .ok a) ∧ rest.Lawful

end

/-- A result is encoded as an object from which it is decoded, in the order of the fields as well as
sorted by name. -/
def Shape.Again {α : Type} (shape : Shape α) (a : α) : Prop :=
  ∃ members, shape.encode a = .object members ∧ shape.decode (.object members) = .ok a ∧
    shape.decode (Json.ofMembers members) = .ok a

/-- Whatever is decoded is decoded again from its encoding. A value that was not decoded from
anything is not covered. -/
def Shape.Reencodes {α : Type} (shape : Shape α) : Prop :=
  ∀ ⦃value a⦄, shape.decode value = .ok a → shape.decode (shape.encode a) = .ok a

/-! ## Numbers, texts and hashes

One encoding lemma for each scalar: what was decoded is encoded as a value that decodes to it. -/

/-- An integer is encoded as the number it is decoded from. -/
theorem ofInt?_of_int? {n : Number} {m : Int} (h : n.int? = some m) :
    Number.ofInt? m = some n := by
  unfold Number.ofInt?
  cases n with
  | natural k fits =>
    obtain rfl : (k : Int) = m := Option.some.inj h
    rw [dif_pos ⟨Int.natCast_nonneg k, fits⟩]
    rfl
  | negative k fits =>
    obtain rfl : -(k : Int) = m := Option.some.inj h
    have hneg : ¬(0 ≤ -(k : Int) ∧ (-(k : Int)).toNat < UInt64.size) := by omega
    rw [dif_neg hneg]
    simp only [Int.natAbs_neg, Int.natAbs_natCast, dif_pos fits]
  | real x => cases h

theorem encode_integer {α : Type} {kind : IntegerKind α} (lawful : kind.Lawful) {value : Json}
    {a : α} (h : (Shape.integer kind).decode value = .ok a) :
    (Shape.integer kind).encode a = value := by
  rw [Shape.decode] at h
  cases value with
  | number n =>
    unfold Decode.integer at h
    dsimp only at h
    split at h
    · rename_i m hint
      split at h
      · rename_i hrange
        cases h
        rw [Shape.encode, lawful m hrange.1 hrange.2, ofInt?_of_int? hint]
      · cases h
    · cases h
  | null | bool | string | array | object => cases h

theorem reencodes_integer {α : Type} {kind : IntegerKind α} (lawful : kind.Lawful) :
    (Shape.integer kind).Reencodes := by
  intro value a h
  rw [encode_integer lawful h, h]

theorem utf8ByteSize_ofList {cs : List Char} (single : ∀ c ∈ cs, c.utf8Size = 1) :
    (String.ofList cs).utf8ByteSize = cs.length := by
  induction cs using List.reverseRecOn with
  | nil => rfl
  | append_singleton cs c ih =>
    have hpush : String.ofList (cs ++ [c]) = (String.ofList cs).push c :=
      String.toList_inj.mp (by simp)
    rw [hpush, String.utf8ByteSize_push, List.length_append, List.length_singleton,
      ih fun d hd => single d (List.mem_append_left _ hd), single c (by simp)]

theorem utf8Size_hexDigit {n : Nat} (h : n < 16) : (Text.hexDigit n).utf8Size = 1 := by
  interval_cases n <;> rfl

/-- A hash is spelled with two digits for each of its bytes. -/
theorem utf8ByteSize_text (hash : Hash) : hash.text.utf8ByteSize = 64 := by
  have hdigits : ∀ c ∈ hash.hex, c.utf8Size = 1 := by
    intro c hc
    obtain ⟨b, -, hc⟩ := List.mem_flatMap.1 hc
    have hlt := b.toNat_lt
    rcases List.mem_cons.1 hc with rfl | hc
    · exact utf8Size_hexDigit (by omega)
    · rw [List.mem_singleton.1 hc]
      exact utf8Size_hexDigit (by omega)
  rw [Hash.text, utf8ByteSize_ofList hdigits, Hash.hex, Text.hexOfBytes, List.length_flatMap]
  simp [hash.length_bytes]

/-- A hash is decoded from its digits. -/
theorem decode_hash (hash : Hash) : Shape.hash.decode (.string hash.text) = .ok hash := by
  obtain ⟨bytes, hlength⟩ := hash
  have hhex : Hash.ofHex? (Hash.text ⟨bytes, hlength⟩).toList = some ⟨bytes, hlength⟩ := by
    unfold Hash.ofHex? Hash.text Hash.hex
    rw [String.toList_ofList, Json.bytesOfHex?_hexOfBytes]
    simp [hlength]
  rw [Shape.decode, Decode.hash, utf8ByteSize_text, hhex]
  rfl

/-! ## Amounts

An amount is written as the nearest binary64 number, which is the number it came from, but for minus
zero. The shape that holds satoshi as an integer is among them only by name. -/

theorem mapError_eq_ok_iff {ε ε' α : Type} {f : ε → ε'} {read : Except ε α} {a : α} :
    read.mapError f = .ok a ↔ read = .ok a := by
  cases read with
  | error fault => simp [Except.mapError]
  | ok b => simp [Except.mapError]

theorem of_decode_coins {value : Json} {a : Amount} (h : Shape.coins.decode value = .ok a) :
    ∃ x, Amount.ofCoins x = .ok a := by
  cases value with
  | number n =>
    rw [decode_coins, mapError_eq_ok_iff] at h
    exact ⟨_, h⟩
  | null | bool | string | array | object =>
    rw [Shape.decode] at h
    cases h

theorem of_decode_signedCoins {value : Json} {a : SignedAmount}
    (h : Shape.signedCoins.decode value = .ok a) : ∃ x, SignedAmount.ofCoins x = .ok a := by
  cases value with
  | number n =>
    rw [decode_signedCoins, mapError_eq_ok_iff] at h
    exact ⟨_, h⟩
  | null | bool | string | array | object =>
    rw [Shape.decode] at h
    cases h

theorem reencodes_coins : Shape.coins.Reencodes := by
  intro value a h
  obtain ⟨x, hread⟩ := of_decode_coins h
  show Shape.coins.decode (.number (.real a.toCoins)) = .ok a
  rw [decode_coins, mapError_eq_ok_iff, Decode.realOfNumber,
    Amount.toCoins_of_ofCoins hread, hread]

theorem reencodes_signedCoins : Shape.signedCoins.Reencodes := by
  intro value a h
  obtain ⟨x, hread⟩ := of_decode_signedCoins h
  show Shape.signedCoins.decode (.number (.real a.toCoins)) = .ok a
  rw [decode_signedCoins, mapError_eq_ok_iff, Decode.realOfNumber]
  by_cases hzero : x = .zero true
  · -- minus zero is written as zero
    subst hzero
    have hnone : SignedAmount.ofCoins (.zero true) = .ok ⟨0⟩ := by rfl
    cases hnone.symm.trans hread
    rfl
  · rw [SignedAmount.toCoins_of_ofCoins hread hzero, hread]

theorem reencodes_satoshi : Shape.satoshi.Reencodes := by
  intro value a _
  have hword := decode_word a.sat
  rw [Shape.decode] at hword
  show Shape.satoshi.decode (.word a.sat) = .ok a
  rw [Shape.decode, hword]
  rfl

/-! ## Scalars -/

theorem decode_json (value : Json) : Shape.json.decode value = .ok value := by
  rw [Shape.decode]

theorem decode_unit : Shape.unit.decode .null = .ok () := by
  rw [Shape.decode]

theorem decode_flag (b : Bool) : Shape.bool.decode (.bool b) = .ok b := by
  rw [Shape.decode]

theorem decode_real (x : Binary64) : Shape.real.decode (.number (.real x)) = .ok x := by
  rw [Shape.decode]
  rfl

/-! ## Options and lists -/

section Composite

variable {α : Type} {inner : Shape α}

theorem decode_none : (Shape.option inner).decode .null = .ok none := by
  rw [Shape.decode]

theorem reencodes_option (more : inner.Reencodes) (present : ∀ a, inner.decode .null ≠ .ok a) :
    (Shape.option inner).Reencodes := by
  intro value found h
  cases found with
  | none => exact decode_none
  | some a =>
    have hinner : inner.decode value = .ok a := by
      by_cases hnull : value = .null
      · subst hnull
        rw [Shape.decode] at h
        cases h
      · rw [Shape.decode] at h
        · cases hinner : inner.decode value with
          | error fault =>
            rw [hinner] at h
            cases h
          | ok b =>
            rw [hinner] at h
            cases h
            rfl
        · exact hnull
    have hencoded := more hinner
    -- what is encoded as null would be taken for an absent value
    have hnull : inner.encode a ≠ .null := by
      intro hnull
      rw [hnull] at hencoded
      exact present a hencoded
    show (Shape.option inner).decode (inner.encode a) = .ok (some a)
    rw [Shape.decode, hencoded]
    · rfl
    · exact hnull

theorem reencodes_list (more : inner.Reencodes) : (Shape.list inner).Reencodes := by
  intro value found h
  cases value with
  | array items =>
    rw [Shape.decode] at h
    show (Shape.list inner).decode (.array (found.map inner.encode)) = .ok found
    rw [Shape.decode]
    induction items generalizing found with
    | nil =>
      cases h
      rfl
    | cons item items ih =>
      rw [List.mapM_cons] at h
      obtain ⟨a, ha, h⟩ := Json.bind_eq_ok.mp h
      obtain ⟨others, hothers, h⟩ := Json.bind_eq_ok.mp h
      cases h
      rw [List.map_cons, List.mapM_cons, more ha, ih hothers]
      rfl
  | null | bool | number | string | object =>
    unfold Shape.decode at h
    cases h

end Composite

/-! ## Records

The fields are encoded under their names and found there again. `Stable` says it of what the fields
hold, and whether that was decoded from an object or from an array is forgotten from there on. -/

/-- Every field holds what its encoding is decoded to. -/
def Fields.Stable {β : Type} : Fields β → β → Prop
  | .nil, _ => True
  | .cons _ _ _ shape rest, parts =>
    shape.decode (shape.encode parts.1) = .ok parts.1 ∧ rest.Stable parts.2

/-- What is decoded for a field, or stands for it if it is missing, is decoded again. -/
def Fields.Reencode {β : Type} : Fields β → Prop
  | .nil => True
  | .cons _ _ absent shape rest =>
    shape.Reencodes ∧ (∀ a, absent = some a → shape.decode (shape.encode a) = .ok a) ∧
      rest.Reencode

section Record

variable {members other : List (String × Json)}

theorem stable_of_ofMembers : ∀ {β : Type} (fields : Fields β), fields.Reencode →
    ∀ {parts : β}, fields.ofMembers members = .ok parts → fields.Stable parts
  | _, .nil, _, _, _ => trivial
  | _, .cons _ _ _ _ rest, again, parts, h => by
    obtain ⟨hshape, habsent, hrest⟩ := again
    obtain ⟨hfirst, hmore⟩ := ofMembers_cases h
    refine ⟨?_, stable_of_ofMembers rest hrest hmore⟩
    rcases hfirst with ⟨_, -, hvalue⟩ | ⟨-, hmissing⟩
    · exact hshape hvalue
    · exact habsent _ hmissing

theorem stable_of_ofItems {wanted : String} {length : Nat} : ∀ {β : Type} (fields : Fields β),
    fields.Reencode → ∀ {index : Nat} {items : List Json} {parts : β},
      fields.ofItems wanted index length items = .ok parts → fields.Stable parts
  | _, .nil, _, _, _, _, _ => trivial
  | _, .cons _ _ _ _ rest, again, _, _, parts, h => by
    obtain ⟨hshape, habsent, hrest⟩ := again
    obtain ⟨hfirst, hmore⟩ := ofItems_cases h
    refine ⟨?_, stable_of_ofItems rest hrest hmore⟩
    rcases hfirst with ⟨_, -, hvalue⟩ | ⟨-, hmissing⟩
    · exact hshape hvalue
    · exact habsent _ hmissing

theorem map_fst_encode {β : Type} (fields : Fields β) (parts : β) :
    (fields.encode parts).map Prod.fst = fields.wireNames := by
  match fields, parts with
  | .nil, _ => rfl
  | .cons _ wire _ _ rest, (_, more) =>
    show wire :: (rest.encode more).map Prod.fst = wire :: rest.wireNames
    rw [map_fst_encode rest more]

/-- The fields find what they hold if every one has its member. -/
theorem ofMembers_of_stable {β : Type} (fields : Fields β) {parts : β}
    (stable : fields.Stable parts)
    (holds : ∀ member ∈ fields.encode parts, Json.member? member.1 members = some member.2) :
    fields.ofMembers members = .ok parts := by
  match fields, parts with
  | .nil, _ => rw [Fields.ofMembers]
  | .cons _ wire _ shape rest, (first, more) =>
    have hrest := ofMembers_of_stable rest stable.2 fun member hmember =>
      holds member (List.mem_cons_of_mem _ hmember)
    exact ofMembers_member (holds _ List.mem_cons_self) stable.1 hrest

variable {α β : Type} {name : String} {fields : Fields β}

/-- An object with the members of a record, and without repeated names, is decoded to it. -/
theorem decode_record_of_stable {build : β → α} {apart : α → β} {parts : β}
    (stable : fields.Stable parts) (hnames : (members.map Prod.fst).Nodup)
    (holds : ∀ member ∈ fields.encode parts, member ∈ members) :
    (Shape.record name fields build apart).decode (.object members) = .ok (build parts) :=
  (decode_record_iff hnames).mpr ⟨parts, ofMembers_of_stable fields stable fun member hmember =>
    (Json.lookup_eq_some_iff hnames).mpr (holds member hmember), rfl⟩

theorem stable_of_decode_record {build : β → α} {apart : α → β} (again : fields.Reencode)
    {value : Json} {a : α}
    (h : (Shape.record name fields build apart).decode value = .ok a) :
    ∃ parts, build parts = a ∧ fields.Stable parts := by
  cases value with
  | object members =>
    rw [Shape.decode] at h
    obtain ⟨_, -, h⟩ := Json.bind_eq_ok.mp h
    obtain ⟨parts, hparts, h⟩ := Json.bind_eq_ok.mp h
    cases h
    exact ⟨parts, rfl, stable_of_ofMembers fields again hparts⟩
  | array items =>
    obtain ⟨parts, hparts, rfl⟩ := decode_record_items_iff.mp h
    exact ⟨parts, rfl, stable_of_ofItems fields again hparts⟩
  | null | bool | number | string =>
    unfold Shape.decode at h
    cases h

theorem reencodes_record {build : β → α} {apart : α → β}
    (lawful : ∀ parts, apart (build parts) = parts) (distinct : fields.wireNames.Nodup)
    (again : fields.Reencode) : (Shape.record name fields build apart).Reencodes := by
  intro value a h
  obtain ⟨parts, rfl, stable⟩ := stable_of_decode_record again h
  show (Shape.record name fields build apart).decode
    (.object (fields.encode (apart (build parts)))) = .ok (build parts)
  rw [lawful]
  exact decode_record_of_stable stable (map_fst_encode fields parts ▸ distinct) fun _ => id

/-- What an open record keeps is found behind its fields. -/
theorem reencodes_openRecord {build : β → List (String × Json) → α}
    {apart : α → β × List (String × Json)}
    (lawful : ∀ parts other, apart (build parts other) = (parts, other))
    (distinct : fields.wireNames.Nodup) (again : fields.Reencode) :
    (Shape.openRecord name fields build apart).Reencodes := by
  intro value a h
  obtain ⟨members, parts, rfl, hparts, rfl⟩ := of_decode_openRecord h
  have stable := stable_of_ofMembers fields again hparts
  generalize hother : members.filter (fun member => member.1 ∉ fields.wireNames) = other
  have hforeign : ∀ member ∈ other, member.1 ∉ fields.wireNames := by
    intro member hmember
    rw [← hother] at hmember
    exact of_decide_eq_true (List.mem_filter.1 hmember).2
  have hnames : ((fields.encode parts).map Prod.fst).Nodup := map_fst_encode fields parts ▸ distinct
  -- the fields stand in front, so each finds its own member before what was kept
  have holds : ∀ member ∈ fields.encode parts,
      Json.member? member.1 (fields.encode parts ++ other) = some member.2 := by
    intro member hmember
    rw [Json.member?, List.lookup_append, (Json.lookup_eq_some_iff hnames).mpr hmember,
      Option.some_or]
  have hcheck : ∀ member ∈ fields.encode parts ++ other,
      fields.checkMember member.1 member.2 = .ok () := by
    intro member hmember
    rcases List.mem_append.1 hmember with hfield | hmember
    · exact checkMember_of_ofMembers fields (ofMembers_of_stable fields stable holds)
        (holds member hfield)
    · exact checkMember_foreign fields (hforeign member hmember)
  show (Shape.openRecord name fields build apart).decode (.object
    (fields.encode (apart (build parts other)).1 ++ (apart (build parts other)).2)) = _
  rw [lawful]
  refine (decode_openRecord parts hcheck (ofMembers_of_stable fields stable holds)).trans ?_
  have hfields : (fields.encode parts).filter (fun member => member.1 ∉ fields.wireNames) = [] := by
    refine List.filter_eq_nil_iff.mpr fun member hmember => ?_
    have hname : member.1 ∈ fields.wireNames :=
      map_fst_encode fields parts ▸ List.mem_map_of_mem hmember
    simpa using hname
  have hkept : other.filter (fun member => member.1 ∉ fields.wireNames) = other :=
    List.filter_eq_self.mpr fun member hmember => decide_eq_true (hforeign member hmember)
  rw [List.filter_append, hfields, hkept, List.nil_append]

end Record

/-! ## All shapes -/

mutual

/-- **What is decoded is decoded again from its encoding**, whatever it was decoded from. One case
for each kind of shape; the records are where the conditions on a description are used. -/
theorem Shape.reencodes : ∀ {α : Type} (shape : Shape α), shape.Lawful → shape.Reencodes
  | _, .json, _ => fun _ value _ => decode_json value
  | _, .unit, _ => fun _ _ _ => decode_unit
  | _, .bool, _ => fun _ b _ => decode_flag b
  | _, .integer _, lawful => reencodes_integer lawful
  | _, .real, _ => fun _ x _ => decode_real x
  | _, .string, _ => fun _ _ _ => decode_text_iff.mpr rfl
  | _, .hash, _ => fun _ hash _ => decode_hash hash
  | _, .coins, _ => reencodes_coins
  | _, .signedCoins, _ => reencodes_signedCoins
  | _, .satoshi, _ => reencodes_satoshi
  | _, .option inner, lawful => reencodes_option (inner.reencodes lawful.1) lawful.2
  | _, .list item, lawful => reencodes_list (item.reencodes lawful)
  | _, .record _ fields _ _, lawful =>
    reencodes_record lawful.1 lawful.2.1 (fields.reencode lawful.2.2)
  | _, .openRecord _ fields _ _, lawful =>
    reencodes_openRecord lawful.1 lawful.2.1 (fields.reencode lawful.2.2)

theorem Fields.reencode : ∀ {β : Type} (fields : Fields β), fields.Lawful → fields.Reencode
  | _, .nil, _ => trivial
  | _, .cons _ _ _ shape rest, lawful =>
    ⟨shape.reencodes lawful.1, lawful.2.1, rest.reencode lawful.2.2⟩

end

/-- A record is decoded again, and so it is if the members of its encoding are sorted first. -/
theorem again_of_decode_record {α β : Type} {name : String} {fields : Fields β} {build : β → α}
    {apart : α → β} (lawful : (Shape.record name fields build apart).Lawful) {value : Json} {a : α}
    (h : (Shape.record name fields build apart).decode value = .ok a) :
    (Shape.record name fields build apart).Again a := by
  obtain ⟨hback, distinct, hfields⟩ := lawful
  obtain ⟨parts, rfl, stable⟩ := stable_of_decode_record (fields.reencode hfields) h
  have hnames : ((fields.encode parts).map Prod.fst).Nodup := map_fst_encode fields parts ▸ distinct
  have hsorted := (Json.ordered_sortMembers (fields.encode parts)).names_nodup
  refine ⟨fields.encode parts, congrArg (Json.object <| fields.encode ·) (hback parts), ?_, ?_⟩
  · exact decode_record_of_stable stable hnames fun _ => id
  · -- a sorted object has the same members, and the fields find them by name
    refine decode_record_of_stable stable hsorted fun member hmember => ?_
    rw [← Json.lookup_eq_some_iff hnames, ← Json.lookup_sortMembers_of_nodup hnames] at hmember
    exact (Json.lookup_eq_some_iff hsorted).mp hmember

/-! ## The records that are encoded

The descriptions that are used with the encoder. For each of them the conditions are closed by going
through the fields. -/

theorem lawful_u32 : IntegerKind.u32.Lawful := by
  intro n hleast hgreatest
  have hrange : 0 ≤ n ∧ n ≤ 4294967295 := ⟨hleast, hgreatest⟩
  have hword : (n % 2 ^ 32).toNat < UInt32.size := by
    unfold UInt32.size
    omega
  show ((UInt32.ofInt n).toNat : Int) = n
  rw [UInt32.ofInt, UInt32.toNat_ofNat_of_lt' hword]
  omega

theorem lawful_u64 : IntegerKind.u64.Lawful := by
  intro n hleast hgreatest
  have hrange : 0 ≤ n ∧ n ≤ 18446744073709551615 := ⟨hleast, hgreatest⟩
  have hword : (n % 2 ^ 64).toNat < UInt64.size := by
    unfold UInt64.size
    omega
  show ((UInt64.ofInt n).toNat : Int) = n
  rw [UInt64.ofInt, UInt64.toNat_ofNat_of_lt' hword]
  omega

theorem lawful_i64 : IntegerKind.i64.Lawful := by
  intro n hleast hgreatest
  exact Int64.toInt_ofInt_of_le hleast (Int.lt_add_one_of_le hgreatest)

section Fields

variable {α β : Type} {name wire : String} {shape : Shape α} {rest : Fields β}

theorem Fields.Lawful.need (hshape : shape.Lawful) (hrest : rest.Lawful) :
    (Fields.cons name wire none shape rest).Lawful :=
  ⟨hshape, fun _ h => absurd h.symm (Option.some_ne_none _), hrest⟩

theorem Fields.Lawful.may {a : α} (hshape : shape.Lawful)
    (habsent : shape.decode (shape.encode a) = .ok a) (hrest : rest.Lawful) :
    (Fields.cons name wire (some a) shape rest).Lawful :=
  ⟨hshape, fun _ h => Option.some.inj h ▸ habsent, hrest⟩

theorem lawful_limit : (Shape.option .u64).Lawful := by
  refine ⟨lawful_u64, fun a h => ?_⟩
  rw [Shape.decode] at h
  cases h

theorem lawful_info : Info.shape.Lawful := by
  have hzero := reencodes_integer lawful_i64 (decode_int_iff.mpr (rfl : Json.int 0 = .int 0))
  have hempty : Shape.string.decode (Shape.string.encode "") = .ok "" := decode_text_iff.mpr rfl
  exact ⟨fun _ => rfl, by decide, .need lawful_u64 <| .need lawful_u64 <| .need lawful_u64 <|
    .may lawful_i64 hzero <| .need lawful_u64 <| .may trivial hempty <| .need trivial <|
    .may trivial (decode_flag _) <| .may trivial (decode_flag _) <| .need trivial <|
    .may trivial hempty <| .may lawful_limit decode_none <| .may lawful_limit decode_none trivial⟩

theorem lawful_chainInfo : ChainInfo.shape.Lawful :=
  ⟨fun _ => rfl, by decide, .need trivial <| .need lawful_u64 <| .need lawful_u64 <|
    .need trivial <| .need trivial <| .need lawful_u64 <| .need trivial <| .need trivial <|
    .need trivial trivial⟩

theorem lawful_miningInfo : MiningInfo.shape.Lawful := by
  have hzero := reencodes_integer lawful_u64 (decode_word 0)
  have hempty : Shape.string.decode (Shape.string.encode "") = .ok "" := decode_text_iff.mpr rfl
  exact ⟨fun _ => rfl, by decide, .need lawful_u64 <| .may lawful_u64 hzero <|
    .may lawful_u64 hzero <| .need trivial <| .may trivial hempty <| .need trivial <|
    .need lawful_u64 <| .need trivial trivial⟩

theorem lawful_txInputRef : TxInputRef.shape.Lawful :=
  ⟨fun _ => rfl, by decide, .need trivial <| .need lawful_u32 trivial⟩

theorem lawful_frozenOutpoint : FrozenOutpoint.shape.Lawful :=
  ⟨fun _ => rfl, by decide, .need trivial <| .need lawful_u32 trivial⟩

end Fields

end NodeRpc
