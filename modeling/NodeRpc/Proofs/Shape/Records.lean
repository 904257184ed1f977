import NodeRpc.Shape.Decode
import NodeRpc.Proofs.Json.Sameness
import NodeRpc.Proofs.Json.SkippedTokens

/-!
# Decoding records

An object is gone through twice, member by member for what does not fit and then field by field. If
none of its names is repeated, as in every object that was read, the fields alone decide what it is
decoded to (`decode_record_iff`).

The two passes are there for the sake of errors. Which member is reported, when several are wrong,
goes by the order of the members, and that a field is missing is reported only when no member is
wrong. For what is decoded if nothing is wrong the first pass does not matter, and the lemmas on
success are about the second. An array has its items in the order of the fields, so one pass is
enough for it, and an array that is too long is an error of its own.

The lemmas come in two directions: what to do to decode a record with given fields, and what is
known of a record that was decoded. Both are one field at a time, so a proof about a record with a
dozen fields is a chain of a dozen equal steps.
-/

namespace NodeRpc

section Record

variable {α β γ : Type} {name wire : String} {absent : Option α} {shape : Shape α}
  {rest : Fields β} {members : List (String × Json)}

theorem checkMember_self {value : Json} {a : α} (h : shape.decode value = .ok a) :
    (Fields.cons name wire absent shape rest).checkMember wire value = .ok () := by
  rw [Fields.checkMember, if_pos rfl, h]
  rfl

theorem checkMember_ne {other : String} (h : other ≠ wire) (value : Json) :
    (Fields.cons name wire absent shape rest).checkMember other value =
      rest.checkMember other value := by
  rw [Fields.checkMember, if_neg h]

/-- A member passes if no field is named for it. -/
theorem checkMember_foreign {β : Type} (fields : Fields β) {other : String} {value : Json}
    (foreign : other ∉ fields.wireNames) : fields.checkMember other value = .ok () := by
  match fields with
  | .nil => rw [Fields.checkMember]
  | .cons _ wire _ _ rest =>
    rw [Fields.wireNames, List.mem_cons, not_or] at foreign
    rw [checkMember_ne foreign.1]
    exact checkMember_foreign rest foreign.2

theorem ofMembers_member {value : Json} {a : α} {parts : β}
    (hmember : Json.member? wire members = some value) (ha : shape.decode value = .ok a)
    (hrest : rest.ofMembers members = .ok parts) :
    (Fields.cons name wire absent shape rest).ofMembers members = .ok (a, parts) := by
  unfold Fields.ofMembers
  simp only [hmember, ha, hrest]
  rfl

theorem ofMembers_absent {a : α} {parts : β} (hmember : Json.member? wire members = none)
    (hrest : rest.ofMembers members = .ok parts) :
    (Fields.cons name wire (some a) shape rest).ofMembers members = .ok (a, parts) := by
  simp only [Fields.ofMembers, hmember, hrest]
  rfl

theorem checkMembers_eq_ok {fields : Fields β}
    (hcheck : ∀ member ∈ members, fields.checkMember member.1 member.2 = .ok ()) :
    fields.checkMembers members = .ok () := by
  unfold Fields.checkMembers
  induction members with
  | nil => rfl
  | cons member members ih =>
    have hfirst := hcheck member (by simp)
    have hothers := ih fun other hother => hcheck other (by simp [hother])
    show (fields.checkMember member.1 member.2 >>= fun _ => members.forM _) = .ok ()
    rw [hfirst]
    exact hothers

/-- An object of which every member passes is decoded by its fields. -/
theorem decode_record {fields : Fields β} {build : β → γ} {apart : γ → β} (parts : β)
    (hcheck : ∀ member ∈ members, fields.checkMember member.1 member.2 = .ok ())
    (hparts : fields.ofMembers members = .ok parts) :
    (Shape.record name fields build apart).decode (.object members) = .ok (build parts) := by
  rw [Shape.decode, checkMembers_eq_ok hcheck, hparts]
  rfl

/-- A field is decoded from its member, or it may be missing and is. -/
theorem ofMembers_cases {parts : α × β}
    (h : (Fields.cons name wire absent shape rest).ofMembers members = .ok parts) :
    ((∃ value, Json.member? wire members = some value ∧ shape.decode value = .ok parts.1) ∨
      Json.member? wire members = none ∧ absent = some parts.1) ∧
      rest.ofMembers members = .ok parts.2 := by
  unfold Fields.ofMembers at h
  split at h
  · rename_i value hmember
    obtain ⟨a, ha, h⟩ := Json.bind_eq_ok.mp h
    obtain ⟨more, hmore, h⟩ := Json.bind_eq_ok.mp h
    cases h
    exact ⟨Or.inl ⟨value, hmember, ha⟩, hmore⟩
  · rename_i hmember
    split at h
    · obtain ⟨a, ha, h⟩ := Json.bind_eq_ok.mp h
      cases ha
      obtain ⟨more, hmore, h⟩ := Json.bind_eq_ok.mp h
      cases h
      exact ⟨Or.inr ⟨hmember, rfl⟩, hmore⟩
    · cases h

/-- A field that has to be there is decoded from its member. -/
theorem ofMembers_need {parts : α × β}
    (h : (Fields.need name shape rest).ofMembers members = .ok parts) :
    ∃ value, Json.member? name members = some value ∧ shape.decode value = .ok parts.1 ∧
      rest.ofMembers members = .ok parts.2 := by
  obtain ⟨⟨value, hmember, ha⟩ | ⟨-, habsent⟩, hrest⟩ := ofMembers_cases h
  · exact ⟨value, hmember, ha, hrest⟩
  · cases habsent

theorem ofItems_item {wanted : String} {index length : Nat} {value : Json} {more : List Json}
    {a : α} {parts : β} (ha : shape.decode value = .ok a)
    (hrest : rest.ofItems wanted (index + 1) length more = .ok parts) :
    (Fields.cons name wire absent shape rest).ofItems wanted index length (value :: more) =
      .ok (a, parts) := by
  unfold Fields.ofItems
  simp only [ha, List.tail_cons, hrest]
  rfl

/-- In an array a field is decoded from the next item, or it may be missing and there is none. -/
theorem ofItems_cases {wanted : String} {index length : Nat} {items : List Json} {parts : α × β}
    (h : (Fields.cons name wire absent shape rest).ofItems wanted index length items =
      .ok parts) :
    ((∃ value, items.head? = some value ∧ shape.decode value = .ok parts.1) ∨
      items = [] ∧ absent = some parts.1) ∧
      rest.ofItems wanted (index + 1) length items.tail = .ok parts.2 := by
  unfold Fields.ofItems at h
  cases items with
  | nil =>
    cases absent with
    | none => cases h
    | some a =>
      obtain ⟨_, hfirst, h⟩ := Json.bind_eq_ok.mp h
      cases hfirst
      obtain ⟨more, hmore, h⟩ := Json.bind_eq_ok.mp h
      cases h
      exact ⟨Or.inr ⟨rfl, rfl⟩, hmore⟩
  | cons item items =>
    obtain ⟨a, ha, h⟩ := Json.bind_eq_ok.mp h
    obtain ⟨more, hmore, h⟩ := Json.bind_eq_ok.mp h
    cases h
    exact ⟨Or.inl ⟨item, rfl, ha⟩, hmore⟩

/-- In an array a field that has to be there is decoded from the next item. -/
theorem ofItems_need {wanted : String} {index length : Nat} {items : List Json} {parts : α × β}
    (h : (Fields.need name shape rest).ofItems wanted index length items = .ok parts) :
    ∃ value more, items = value :: more ∧ shape.decode value = .ok parts.1 ∧
      rest.ofItems wanted (index + 1) length more = .ok parts.2 := by
  obtain ⟨⟨value, hitem, ha⟩ | ⟨-, habsent⟩, hrest⟩ := ofItems_cases h
  · obtain ⟨more, rfl⟩ := List.head?_eq_some_iff.mp hitem
    exact ⟨value, more, rfl, ha, hrest⟩
  · cases habsent

theorem ofItems_nil {wanted : String} {index length : Nat} {items : List Json}
    (h : Fields.nil.ofItems wanted index length items = .ok ()) : items = [] := by
  unfold Fields.ofItems at h
  split at h
  · exact List.isEmpty_iff.mp ‹_›
  · cases h

/-- A member that stands for its name passes if all fields are decoded. -/
theorem checkMember_of_ofMembers {β : Type} (fields : Fields β) {parts : β}
    (hparts : fields.ofMembers members = .ok parts) {other : String} {value : Json}
    (hmember : Json.member? other members = some value) :
    fields.checkMember other value = .ok () := by
  match fields with
  | .nil => rw [Fields.checkMember]
  | .cons name wire absent shape rest =>
    obtain ⟨hfirst, hrest⟩ := ofMembers_cases hparts
    by_cases hother : other = wire
    · subst hother
      obtain ⟨value', hmember', ha⟩ | ⟨hmissing, -⟩ := hfirst
      · obtain rfl := Option.some.inj (hmember.symm.trans hmember')
        exact checkMember_self ha
      · rw [hmember] at hmissing
        cases hmissing
    · rw [checkMember_ne hother]
      exact checkMember_of_ofMembers rest hrest hmember

/-- **An object without repeated names is decoded by its fields alone.** The walk over the members
finds nothing that the fields do not find; with a repeated name it would, in the member that the
fields do not see. -/
theorem decode_record_iff {fields : Fields β} {build : β → γ} {apart : γ → β} {c : γ}
    (hnames : (members.map Prod.fst).Nodup) :
    (Shape.record name fields build apart).decode (.object members) = .ok c ↔
      ∃ parts, fields.ofMembers members = .ok parts ∧ build parts = c := by
  constructor
  · intro h
    rw [Shape.decode] at h
    obtain ⟨_, -, h⟩ := Json.bind_eq_ok.mp h
    obtain ⟨parts, hparts, h⟩ := Json.bind_eq_ok.mp h
    cases h
    exact ⟨parts, hparts, rfl⟩
  · rintro ⟨parts, hparts, rfl⟩
    refine decode_record parts ?_ hparts
    intro member hmember
    exact checkMember_of_ofMembers fields hparts
      ((Json.lookup_eq_some_iff hnames).mpr hmember)

/-- An array is decoded item by item. -/
theorem decode_record_items_iff {fields : Fields β} {build : β → γ} {apart : γ → β} {c : γ}
    {items : List Json} :
    (Shape.record name fields build apart).decode (.array items) = .ok c ↔
      ∃ parts, fields.ofItems (Decode.elements name fields.count) 0 items.length items =
        .ok parts ∧ build parts = c := by
  rw [Shape.decode]
  cases fields.ofItems (Decode.elements name fields.count) 0 items.length items with
  | error fault => simp [Except.map]
  | ok parts => simp [Except.map]

/-- An open record is read from an object, and it keeps the members that no field is named for. -/
theorem of_decode_openRecord {fields : Fields β} {build : β → List (String × Json) → γ}
    {apart : γ → β × List (String × Json)} {value : Json} {c : γ}
    (h : (Shape.openRecord name fields build apart).decode value = .ok c) : ∃ members parts,
      value = .object members ∧ fields.ofMembers members = .ok parts ∧
      c = build parts (members.filter fun member => member.1 ∉ fields.wireNames) := by
  cases value with
  | object members =>
    rw [Shape.decode] at h
    obtain ⟨_, -, h⟩ := Json.bind_eq_ok.mp h
    obtain ⟨parts, hparts, h⟩ := Json.bind_eq_ok.mp h
    cases h
    exact ⟨members, parts, rfl, hparts,
      congrArg (build parts) (List.filter_congr fun member _ => by simp)⟩
  | null | bool | number | string | array =>
    unfold Shape.decode at h
    cases h

theorem decode_openRecord {fields : Fields β} {build : β → List (String × Json) → γ}
    {apart : γ → β × List (String × Json)} (parts : β)
    (hcheck : ∀ member ∈ members, fields.checkMember member.1 member.2 = .ok ())
    (hparts : fields.ofMembers members = .ok parts) :
    (Shape.openRecord name fields build apart).decode (.object members) =
      .ok (build parts (members.filter fun member => member.1 ∉ fields.wireNames)) := by
  rw [Shape.decode, checkMembers_eq_ok hcheck, hparts]
  exact congrArg (fun other => Except.ok (build parts other))
    (List.filter_congr fun member _ => by simp)

theorem decode_openRecord_iff {fields : Fields β} {build : β → List (String × Json) → γ}
    {apart : γ → β × List (String × Json)} {c : γ} (hnames : (members.map Prod.fst).Nodup) :
    (Shape.openRecord name fields build apart).decode (.object members) = .ok c ↔
      ∃ parts, fields.ofMembers members = .ok parts ∧
        build parts (members.filter fun member => member.1 ∉ fields.wireNames) = c := by
  constructor
  · intro h
    obtain ⟨_, parts, hobject, hparts, rfl⟩ := of_decode_openRecord h
    cases hobject
    exact ⟨parts, hparts, rfl⟩
  · rintro ⟨parts, hparts, rfl⟩
    exact decode_openRecord parts (fun member hmember => checkMember_of_ofMembers fields hparts
      ((Json.lookup_eq_some_iff hnames).mpr hmember)) hparts

end Record

/-! ## Integers and texts

The fields that occur most, as iffs. A signed word is decoded from one number only, since a number
has one form whether it is written with a fraction or not. -/

theorem decode_word (n : UInt64) : Shape.u64.decode (.word n) = .ok n := by
  have hlt := n.toNat_lt
  have hrange : IntegerKind.u64.least ≤ (n.toNat : Int) ∧
      (n.toNat : Int) ≤ IntegerKind.u64.greatest := by
    unfold IntegerKind.u64
    dsimp only
    omega
  have hofInt : IntegerKind.u64.ofInt (n.toNat : Int) = n := by
    have hmod : ((n.toNat : Int) % 2 ^ 64).toNat = n.toNat := by omega
    show UInt64.ofInt (n.toNat : Int) = n
    unfold UInt64.ofInt
    rw [hmod, UInt64.ofNat_toNat]
  simp only [Shape.decode, Decode.integer, Json.word, Number.ofUInt64, Number.int?]
  rw [if_pos hrange, hofInt]

/-- The integers that a signed word holds. -/
theorem fits_i64_iff {m : Int} : IntegerKind.i64.least ≤ m ∧ m ≤ IntegerKind.i64.greatest ↔
    ∃ n : Int64, n.toInt = m := by
  constructor
  · rintro ⟨hlower, hupper⟩
    refine ⟨.ofInt m, Int64.toInt_ofInt_of_le ?_ ?_⟩
    · exact hlower
    · exact Int.lt_add_one_of_le hupper
  · rintro ⟨n, rfl⟩
    exact ⟨n.le_toInt, Int.le_of_lt_add_one n.toInt_lt⟩

/-- The only number that is kept as this integer is the one that is written for it. -/
theorem int?_eq_some_iff {m : Number} {n : Int64} :
    m.int? = some n.toInt ↔ m = .ofInt64 n := by
  unfold Number.ofInt64
  cases m with
  | natural k fits =>
    simp only [Number.int?, Option.some.injEq]
    split
    · simp only [Number.natural.injEq]
      omega
    · simp only [reduceCtorEq, iff_false]
      omega
  | negative k fits =>
    simp only [Number.int?, Option.some.injEq]
    split
    · simp only [reduceCtorEq, iff_false]
      omega
    · simp only [Number.negative.injEq]
      omega
  | real x =>
    simp only [Number.int?]
    split
    · simp
    · simp

/-- **A signed word is decoded only from the number that is written for it.** There is one way to
keep an integer, so what was decoded determines the value it was decoded from. -/
theorem decode_int_iff {value : Json} {n : Int64} :
    Shape.i64.decode value = .ok n ↔ value = .int n := by
  cases value with
  | number m =>
    rw [Json.int, Json.number.injEq, ← int?_eq_some_iff]
    simp only [Shape.decode, Decode.integer]
    cases hint : m.int? with
    | none => simp [Decode.unfit]
    | some k =>
      by_cases hfits : IntegerKind.i64.least ≤ k ∧ k ≤ IntegerKind.i64.greatest
      · obtain ⟨word, rfl⟩ := fits_i64_iff.mp hfits
        have hword : IntegerKind.i64.ofInt word.toInt = word := Int64.ofInt_toInt word
        simp [hfits, hword, Int64.toInt_inj]
      · have hnone : k ≠ n.toInt := by
          rintro rfl
          exact hfits (fits_i64_iff.mpr ⟨n, rfl⟩)
        simp [hfits, hnone]
  | _ => simp [Shape.decode, Decode.integer, Decode.unfit, Json.int]

theorem decode_text_iff {value : Json} {s : String} :
    Shape.string.decode value = .ok s ↔ value = .string s := by
  cases value with
  | string t => simp [Shape.decode]
  | _ => simp [Shape.decode, Decode.unfit]

end NodeRpc
