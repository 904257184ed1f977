import NodeRpc.Proofs.Shape.Records

/-!
# The parts of a value

A result is decoded part by part: a record from its members or its items, a list from its items, and
what may be null from what it is if it is not. `Reads` says that a value is read as one part of
another and where it then stands in the result. It is stated about shapes, so it holds of the fields
of every result, however deep they are inside it.

What is decoded holds what its parts are decoded to (`Reads.decode_eq_ok`), and a part that does not
fit is never passed over (`Reads.decode_eq_error`). A fact about one kind of field is lifted to
every result with the two of them, and this is how nothing needs to be said about any particular
record.

Every way in which a value is read inside another has a constructor, and a way that had none would
be a kind of field about which nothing is said. Records have three: by name, by place, as a record
is also read from an array, and by name in a record that keeps foreign members, which is not. The
last is easy to forget, because only one result is of that kind, and the one amount it holds is as
much an amount as all others.

A path says nothing about the rest of the value. So the second half gives *some* error and not the
one of the part: a record stops at the first member that does not fit, which may be another.
-/

namespace NodeRpc

/-! ## Fields

A record has fields and an object has members, and which belongs to which is found by name, or by
place in an array. The fields are a list of their own in which the type of each may be different, so
a field is pointed at by a relation and not by an index alone. -/

/-- A field of a record: its place among the fields, its name on the wire, its shape, and how what
it holds is got from what all fields hold. -/
inductive Fields.Has : {β : Type} → Fields β → Nat → String → {α : Type} → Shape α →
    (β → α) → Prop
  | first {α β : Type} {name wire : String} {absent : Option α} {shape : Shape α}
      {rest : Fields β} : Has (.cons name wire absent shape rest) 0 wire shape Prod.fst
  | later {α β γ : Type} {name wire other : String} {absent : Option α} {shape : Shape α}
      {rest : Fields β} {index : Nat} {field : Shape γ} {get : β → γ}
      (more : Has rest index other field get) :
      Has (.cons name wire absent shape rest) (index + 1) other field fun parts => get parts.2

section Fields

variable {α β : Type} {fields : Fields β} {index : Nat} {wire : String} {shape : Shape α}
  {get : β → α} {parts : β} {value : Json}

/-- In an object a field holds what its member is decoded to. -/
theorem Fields.Has.ofMembers {members : List (String × Json)} (h : fields.Has index wire shape get)
    (hparts : fields.ofMembers members = .ok parts)
    (hmember : Json.member? wire members = some value) : shape.decode value = .ok (get parts) := by
  induction h with
  | first =>
    obtain ⟨⟨found, hfound, ha⟩ | ⟨hmissing, -⟩, -⟩ := ofMembers_cases hparts
    · obtain rfl := Option.some.inj (hmember.symm.trans hfound)
      exact ha
    · rw [hmember] at hmissing
      cases hmissing
  | later _ ih =>
    obtain ⟨-, hrest⟩ := ofMembers_cases hparts
    exact ih hrest hmember

theorem Fields.Has.ofItems {wanted : String} {start length : Nat} {items : List Json}
    (h : fields.Has index wire shape get)
    (hparts : fields.ofItems wanted start length items = .ok parts)
    (hitem : items[index]? = some value) : shape.decode value = .ok (get parts) := by
  induction h generalizing start items with
  | first =>
    rw [← List.head?_eq_getElem?] at hitem
    obtain ⟨⟨found, hfound, ha⟩ | ⟨rfl, -⟩, -⟩ := ofItems_cases hparts
    · obtain rfl := Option.some.inj (hitem.symm.trans hfound)
      exact ha
    · cases hitem
  | later _ ih =>
    obtain ⟨-, hrest⟩ := ofItems_cases hparts
    exact ih hrest (by rwa [List.getElem?_tail])

end Fields

/-! ## Parts

The induction is on the path. What a part is decoded to is got at from the outside in, and `get` is
put together in the same order. -/

/-- To decode `value` is to decode `part` on the way; in what comes of the first, `get` finds what
comes of the second. Which member stands for a name is what the decoder takes it to be, so nothing
is asked of names that occur twice. -/
inductive Shape.Reads : {α : Type} → Shape α → Json → {β : Type} → (α → Option β) → Shape β →
    Json → Prop
  | whole {α : Type} {shape : Shape α} {value : Json} : Reads shape value some shape value
  | option {α β : Type} {inner : Shape α} {sub : Shape β} {value part : Json}
      {get : α → Option β} (present : value ≠ .null) (more : Reads inner value get sub part) :
      Reads (.option inner) value (fun found => found.bind get) sub part
  | item {α β : Type} {item : Shape α} {sub : Shape β} {items : List Json} {index : Nat}
      {value part : Json} {get : α → Option β} (stands : items[index]? = some value)
      (more : Reads item value get sub part) :
      Reads (.list item) (.array items) (fun found => found[index]?.bind get) sub part
  | member {α β γ δ : Type} {name wire : String} {fields : Fields β} {build : β → α}
      {apart : α → β} {index : Nat} {field : Shape γ} {getField : β → γ} {sub : Shape δ}
      {members : List (String × Json)} {value part : Json} {get : γ → Option δ}
      (lawful : ∀ parts, apart (build parts) = parts)
      (has : fields.Has index wire field getField)
      (stands : Json.member? wire members = some value) (more : Reads field value get sub part) :
      Reads (.record name fields build apart) (.object members)
        (fun found => get (getField (apart found))) sub part
  | place {α β γ δ : Type} {name wire : String} {fields : Fields β} {build : β → α}
      {apart : α → β} {index : Nat} {field : Shape γ} {getField : β → γ} {sub : Shape δ}
      {items : List Json} {value part : Json} {get : γ → Option δ}
      (lawful : ∀ parts, apart (build parts) = parts)
      (has : fields.Has index wire field getField)
      (stands : items[index]? = some value) (more : Reads field value get sub part) :
      Reads (.record name fields build apart) (.array items)
        (fun found => get (getField (apart found))) sub part
  /-- A record that keeps foreign members has its fields among the members only: it is not read
  from an array. -/
  | openMember {α β γ δ : Type} {name wire : String} {fields : Fields β}
      {build : β → List (String × Json) → α} {apart : α → β × List (String × Json)} {index : Nat}
      {field : Shape γ} {getField : β → γ} {sub : Shape δ} {members : List (String × Json)}
      {value part : Json} {get : γ → Option δ}
      (lawful : ∀ parts others, (apart (build parts others)).1 = parts)
      (has : fields.Has index wire field getField)
      (stands : Json.member? wire members = some value) (more : Reads field value get sub part) :
      Reads (.openRecord name fields build apart) (.object members)
        (fun found => get (getField (apart found).1)) sub part

theorem getElem?_of_mapM_eq_ok {ε α β : Type} {f : α → Except ε β} {xs : List α} {ys : List β}
    (h : xs.mapM f = .ok ys) {i : Nat} {x : α} (hx : xs[i]? = some x) :
    ∃ y, ys[i]? = some y ∧ f x = .ok y := by
  induction xs generalizing ys i with
  | nil => simp at hx
  | cons first rest ih =>
    rw [List.mapM_cons] at h
    obtain ⟨y, hy, h⟩ := Json.bind_eq_ok.mp h
    obtain ⟨more, hmore, h⟩ := Json.bind_eq_ok.mp h
    cases h
    cases i with
    | zero =>
      cases hx
      exact ⟨y, rfl, hy⟩
    | succ i => exact ih hmore hx

section Parts

variable {α β : Type} {shape : Shape α} {sub : Shape β} {value part : Json} {get : α → Option β}

/-- **What a value is decoded to holds what its parts are decoded to.** If there is a result then
every part was decoded, and `get` finds in the result what became of it. -/
theorem Shape.Reads.decode_eq_ok (h : shape.Reads value get sub part) :
    ∀ {a : α}, shape.decode value = .ok a → ∃ b, sub.decode part = .ok b ∧ get a = some b := by
  induction h with
  | whole => exact fun ha => ⟨_, ha, rfl⟩
  | @option α β inner sub value part get present more ih =>
    intro found hfound
    rw [Shape.decode] at hfound
    · cases hinner : inner.decode value with
      | error fault =>
        rw [hinner] at hfound
        cases hfound
      | ok a =>
        rw [hinner] at hfound
        cases hfound
        exact ih hinner
    · exact present
  | @item α β item sub items index value part get stands more ih =>
    intro found hfound
    rw [Shape.decode] at hfound
    obtain ⟨a, ha, hdecode⟩ := getElem?_of_mapM_eq_ok hfound stands
    obtain ⟨b, hb, hget⟩ := ih hdecode
    refine ⟨b, hb, ?_⟩
    dsimp only
    rw [ha, Option.bind_some, hget]
  | member lawful has stands more ih =>
    intro found hfound
    rw [Shape.decode] at hfound
    obtain ⟨_, -, hfound⟩ := Json.bind_eq_ok.mp hfound
    obtain ⟨parts, hparts, hfound⟩ := Json.bind_eq_ok.mp hfound
    cases hfound
    dsimp only
    rw [lawful]
    exact ih (has.ofMembers hparts stands)
  | place lawful has stands more ih =>
    intro found hfound
    obtain ⟨parts, hparts, rfl⟩ := decode_record_items_iff.mp hfound
    dsimp only
    rw [lawful]
    exact ih (has.ofItems hparts stands)
  | openMember lawful has stands more ih =>
    intro found hfound
    obtain ⟨members, parts, heq, hparts, rfl⟩ := of_decode_openRecord hfound
    cases heq
    dsimp only
    rw [lawful]
    exact ih (has.ofMembers hparts stands)

/-- **A part that does not fit is not passed over.** The error need not be the one of this part, as
another that does not fit may stand in front of it. -/
theorem Shape.Reads.decode_eq_error (h : shape.Reads value get sub part) {fault : DecodeError}
    (hfault : sub.decode part = .error fault) : ∃ fault, shape.decode value = .error fault := by
  cases hdecode : shape.decode value with
  | error fault => exact ⟨fault, rfl⟩
  | ok a =>
    obtain ⟨b, hb, -⟩ := h.decode_eq_ok hdecode
    rw [hfault] at hb
    cases hb

end Parts

end NodeRpc
