import NodeRpc.Proofs.Shape.Parts
import NodeRpc.Call.Operation
import NodeRpc.Result.Control
import NodeRpc.Result.Freezing
import NodeRpc.Result.Ledger
import NodeRpc.Result.Mining
import NodeRpc.Result.Network
import NodeRpc.Result.Submission
import NodeRpc.Result.Wallet

/-!
# Members without a field

Nodes add members to their results over time. Where a record is read, a member that no field is
named for may be added without any consequence: what is decoded is the same, and if nothing is, the
same is found wrong (`Shape.Gains.decode_eq`). That holds at every depth, as long as no two fields
of a record share a name.

That the errors are the same too is the stronger half. It would be enough for most purposes that a
good result stays good; but which member is reported depends on the members in front of it, and a
foreign one might be read on the way and found wrong itself. It is passed over unread.

Settings are the exception, for they keep these members. None is lost and none is kept twice, and a
member that a field is named for is not among them (`foreign_members_harmless`). So the two kinds of
records agree in that nothing is refused for being unknown, and differ in what becomes of it.

Only objects gain members. A record that is read from an array has no names, and one item more is an
error there, as it should be.
-/

namespace NodeRpc

/-! ## Distinct names

Two fields of one name would both be decoded from the same member, and the walk over the members
would stop at the first. No record of the results is like that, which is decided by looking at all
of them. -/

mutual

/-- No two fields of a record share a name. It is asked of all records inside as well, and it can be
decided, so it is for every result. -/
def Shape.distinct {α : Type} : Shape α → Bool
  | .option inner => inner.distinct
  | .list item => item.distinct
  | .record _ fields _ _ => decide fields.wireNames.Nodup && fields.distinct
  | .openRecord _ fields _ _ => decide fields.wireNames.Nodup && fields.distinct
  | _ => true

def Fields.distinct {β : Type} : Fields β → Bool
  | .nil => true
  | .cons _ _ _ shape rest => shape.distinct && rest.distinct

end

/-- The records that results are made of. The settings are not among them, as they keep what the
others pass over. -/
def closedRecords : List (Σ α : Type, Shape α) :=
  [⟨_, Info.shape⟩, ⟨_, LockedMemory.shape⟩, ⟨_, MemoryInfo.shape⟩, ⟨_, ChainInfo.shape⟩,
    ⟨_, BlockHeader.shape⟩, ⟨_, ChainTip.shape⟩, ⟨_, MempoolEntry.shape⟩,
    ⟨_, ScriptPubKey.shape⟩, ⟨_, TxOutInfo.shape⟩, ⟨_, OutputSetInfo.shape⟩,
    ⟨_, MiningInfo.shape⟩, ⟨_, MiningCandidate.shape⟩, ⟨_, NetworkInfo.shape⟩,
    ⟨_, NetworkTotals.shape⟩, ⟨_, PeerInfo.shape⟩, ⟨_, BannedSubnet.shape⟩,
    ⟨_, ValidateAddress.shape⟩, ⟨_, MultiSig.shape⟩, ⟨_, WalletInfo.shape⟩, ⟨_, Unspent.shape⟩,
    ⟨_, TxInputRef.shape⟩, ⟨_, CollidedTx.shape⟩, ⟨_, RejectedTx.shape⟩,
    ⟨_, UnconfirmedAncestor.shape⟩, ⟨_, UnconfirmedTx.shape⟩,
    ⟨_, SendRawTransactionsResult.shape⟩, ⟨_, FrozenOutpoint.shape⟩, ⟨_, UnprocessedFund.shape⟩,
    ⟨_, BlacklistResult.shape⟩, ⟨_, ConfiscationTxRef.shape⟩, ⟨_, UnprocessedConfiscation.shape⟩,
    ⟨_, WhitelistResult.shape⟩]

theorem distinct_closedRecords : ∀ result ∈ closedRecords, result.2.distinct := by
  decide

/-! ## Fields and members

The fields look a member up by name, and one of another name is not in the way. The order of the
members does not matter to them, so it makes no difference where the new one is put. -/

section Members

variable {α β : Type} {fields : Fields β} {index : Nat} {wire name : String} {shape : Shape α}
  {get : β → α} {value : Json} {members : List (String × Json)}

theorem checkMembers_cons (member : String × Json) :
    fields.checkMembers (member :: members) =
      fields.checkMember member.1 member.2 >>= fun _ => fields.checkMembers members := by
  unfold Fields.checkMembers
  rfl

theorem checkMembers_insert (foreign : name ∉ fields.wireNames) :
    fields.checkMembers (Json.insert name value members) = fields.checkMembers members := by
  induction members with
  | nil =>
    rw [Json.insert, checkMembers_cons, checkMember_foreign fields foreign]
    rfl
  | cons member members ih =>
    obtain ⟨other, kept⟩ := member
    rw [Json.insert]
    split
    · rename_i hname
      subst hname
      simp only [checkMembers_cons, checkMember_foreign fields foreign]
    · split
      · rw [checkMembers_cons, checkMember_foreign fields foreign]
        rfl
      · rw [checkMembers_cons, ih, ← checkMembers_cons]

/-- The fields look at nothing but the members of their names. -/
theorem ofMembers_congr {β : Type} (fields : Fields β) {members members' : List (String × Json)}
    (same : ∀ wire ∈ fields.wireNames, Json.member? wire members' = Json.member? wire members) :
    fields.ofMembers members' = fields.ofMembers members := by
  match fields with
  | .nil => unfold Fields.ofMembers; rfl
  | .cons _ wire _ _ rest =>
    rw [Fields.wireNames] at same
    have hrest := ofMembers_congr rest fun wire hwire => same wire (List.mem_cons_of_mem _ hwire)
    unfold Fields.ofMembers
    rw [same wire List.mem_cons_self, hrest]

theorem ofMembers_insert (foreign : name ∉ fields.wireNames) :
    fields.ofMembers (Json.insert name value members) = fields.ofMembers members := by
  refine ofMembers_congr fields fun wire hwire => ?_
  have hname : wire ≠ name := by
    rintro rfl
    exact foreign hwire
  rw [Json.member?, Json.lookup_insert, if_neg hname, Json.member?]

/-! A field decodes alike what has replaced its member or its item, so the record does. -/

variable {v v' : Json}

theorem Fields.Has.mem_wireNames (h : fields.Has index wire shape get) :
    wire ∈ fields.wireNames := by
  induction h with
  | first => exact List.mem_cons_self
  | later _ ih => exact List.mem_cons_of_mem _ ih

theorem Fields.Has.distinct (h : fields.Has index wire shape get) (hfields : fields.distinct) :
    shape.distinct := by
  induction h with
  | first => exact (Bool.and_eq_true_iff.1 hfields).1
  | later _ ih => exact ih (Bool.and_eq_true_iff.1 hfields).2

/-- A member is found wrong if its field does not decode it. -/
theorem Fields.Has.checkMember (h : fields.Has index wire shape get)
    (distinct : fields.wireNames.Nodup) (value : Json) :
    fields.checkMember wire value = (shape.decode value).map fun _ => () := by
  induction h with
  | first => rw [Fields.checkMember, if_pos rfl]
  | later more ih =>
    obtain ⟨hnew, distinct⟩ := List.nodup_cons.1 distinct
    rw [checkMember_ne (by rintro rfl; exact hnew more.mem_wireNames)]
    exact ih distinct

theorem Fields.Has.checkMembers_congr (h : fields.Has index wire shape get)
    (distinct : fields.wireNames.Nodup) (alike : shape.decode v' = shape.decode v)
    (before after : List (String × Json)) :
    fields.checkMembers (before ++ (wire, v') :: after) =
      fields.checkMembers (before ++ (wire, v) :: after) := by
  induction before with
  | nil =>
    rw [List.nil_append, List.nil_append, checkMembers_cons, checkMembers_cons,
      h.checkMember distinct, h.checkMember distinct, alike]
  | cons member before ih =>
    rw [List.cons_append, List.cons_append, checkMembers_cons, checkMembers_cons, ih]

theorem member?_append_cons (before after : List (String × Json)) :
    Json.member? name (before ++ (wire, value) :: after) =
      (Json.member? name before).or
        (if name = wire then some value else Json.member? name after) := by
  unfold Json.member?
  rw [List.lookup_append]
  by_cases hname : name = wire
  · rw [if_pos hname, hname, Json.lookup_cons_of_eq]
  · rw [if_neg hname, Json.lookup_cons_of_ne hname]

theorem Fields.Has.ofMembers_congr (h : fields.Has index wire shape get)
    (distinct : fields.wireNames.Nodup) (alike : shape.decode v' = shape.decode v)
    (before after : List (String × Json)) :
    fields.ofMembers (before ++ (wire, v') :: after) =
      fields.ofMembers (before ++ (wire, v) :: after) := by
  have others {name : String} (hname : name ≠ wire) :
      Json.member? name (before ++ (wire, v') :: after) =
        Json.member? name (before ++ (wire, v) :: after) := by
    rw [member?_append_cons, member?_append_cons, if_neg hname, if_neg hname]
  induction h with
  | @first _ _ _ wire absent shape rest =>
    obtain ⟨hnew, -⟩ := List.nodup_cons.1 distinct
    have hrest := NodeRpc.ofMembers_congr rest fun name hmem =>
      others fun hname => hnew (hname ▸ hmem)
    unfold Fields.ofMembers
    rw [hrest, member?_append_cons, member?_append_cons, if_pos rfl, if_pos rfl]
    -- a member of the same name further in front is the one that is found
    cases Json.member? wire before with
    | none => simp only [Option.none_or, alike]
    | some found => rfl
  | later more ih =>
    obtain ⟨hnew, distinct⟩ := List.nodup_cons.1 distinct
    unfold Fields.ofMembers
    rw [ih distinct alike others, others (by rintro rfl; exact hnew more.mem_wireNames)]

theorem Fields.Has.ofItems_congr (h : fields.Has index wire shape get)
    (alike : shape.decode v' = shape.decode v) {wanted : String} {start length : Nat}
    {before after : List Json} (stands : before.length = index) :
    fields.ofItems wanted start length (before ++ v' :: after) =
      fields.ofItems wanted start length (before ++ v :: after) := by
  induction h generalizing start before with
  | first =>
    obtain rfl := List.eq_nil_of_length_eq_zero stands
    unfold Fields.ofItems
    simp only [List.nil_append, List.tail_cons, alike]
  | later more ih =>
    cases before with
    | nil => cases stands
    | cons item before =>
      unfold Fields.ofItems
      simp only [List.cons_append, List.tail_cons]
      rw [ih alike (Nat.succ.inj stands)]

end Members

/-! ## Added members

A change at one place deep inside a value. `Gains` says where, with a constructor for each way down
and one for having arrived, and the induction on it needs only that a field decodes alike what has
replaced its own. -/

/-- In the second value a member is added to an object that is read as a record without a field for
it. The object is the value itself or any part of it. It has to be a part that is read as that
record: a member that is added to the value of a foreign member is just another foreign value. -/
inductive Shape.Gains : {α : Type} → Shape α → Json → Json → Prop
  | here {α β : Type} {record name : String} {fields : Fields β} {build : β → α}
      {apart : α → β} (value : Json) (members : List (String × Json))
      (foreign : name ∉ fields.wireNames) :
      Gains (.record record fields build apart) (.object members)
        (.object (Json.insert name value members))
  | option {α : Type} {inner : Shape α} {v v' : Json} (more : Gains inner v v') :
      Gains (.option inner) v v'
  | item {α : Type} {item : Shape α} {v v' : Json} (before after : List Json)
      (more : Gains item v v') :
      Gains (.list item) (.array (before ++ v :: after)) (.array (before ++ v' :: after))
  | member {α β γ : Type} {record wire : String} {fields : Fields β} {build : β → α}
      {apart : α → β} {index : Nat} {field : Shape γ} {get : β → γ} {v v' : Json}
      (has : fields.Has index wire field get) (before after : List (String × Json))
      (more : Gains field v v') :
      Gains (.record record fields build apart) (.object (before ++ (wire, v) :: after))
        (.object (before ++ (wire, v') :: after))
  | place {α β γ : Type} {record wire : String} {fields : Fields β} {build : β → α}
      {apart : α → β} {index : Nat} {field : Shape γ} {get : β → γ} {v v' : Json}
      (has : fields.Has index wire field get) {before : List Json} (after : List Json)
      (stands : before.length = index) (more : Gains field v v') :
      Gains (.record record fields build apart) (.array (before ++ v :: after))
        (.array (before ++ v' :: after))

theorem mapM_congr_at {ε α β : Type} {f : α → Except ε β} {x x' : α} (same : f x' = f x)
    (before after : List α) : (before ++ x' :: after).mapM f = (before ++ x :: after).mapM f := by
  rw [List.mapM_append, List.mapM_append, List.mapM_cons, List.mapM_cons, same]

section Gains

variable {α : Type} {shape : Shape α} {v v' : Json}

theorem Shape.Gains.ne_null (h : shape.Gains v v') : v ≠ .null ∧ v' ≠ .null := by
  induction h with
  | option _ ih => exact ih
  | here | item | member | place => exact ⟨Json.noConfusion, Json.noConfusion⟩

/-- **A member that no field is named for changes nothing**, neither what is decoded nor what is
found wrong. -/
theorem Shape.Gains.decode_eq (h : shape.Gains v v') (distinct : shape.distinct) :
    shape.decode v' = shape.decode v := by
  induction h with
  | here value members foreign =>
    rw [Shape.decode, Shape.decode, checkMembers_insert foreign, ofMembers_insert foreign]
  | option more ih =>
    obtain ⟨hnull, hnull'⟩ := more.ne_null
    rw [Shape.decode, Shape.decode, ih distinct]
    · exact hnull
    · exact hnull'
  | item before after more ih =>
    rw [Shape.decode, Shape.decode]
    exact mapM_congr_at (ih distinct) before after
  | member has before after more ih =>
    obtain ⟨hnames, hfields⟩ := Bool.and_eq_true_iff.1 distinct
    have hnames := of_decide_eq_true hnames
    have alike := ih (has.distinct hfields)
    rw [Shape.decode, Shape.decode, has.checkMembers_congr hnames alike,
      has.ofMembers_congr hnames alike]
  | place has after stands more ih =>
    obtain ⟨-, hfields⟩ := Bool.and_eq_true_iff.1 distinct
    rw [Shape.decode, Shape.decode, has.ofItems_congr (ih (has.distinct hfields)) stands]
    simp only [List.length_append, List.length_cons]

end Gains

/-! ## Settings

An account of names: those of the fields and those that are kept are, together, those of the object.
That is how nothing can be lost or doubled, and it needs that no field of the settings may be
missing. -/

/-- No field may be missing. -/
def Fields.allNeeded {β : Type} : Fields β → Bool
  | .nil => true
  | .cons _ _ absent _ rest => absent.isNone && rest.allNeeded

section Open

variable {α β : Type} {fields : Fields β} {members : List (String × Json)}

theorem mem_names_of_ofMembers {β : Type} (fields : Fields β) (needed : fields.allNeeded)
    {parts : β} (hparts : fields.ofMembers members = .ok parts) :
    ∀ wire ∈ fields.wireNames, wire ∈ members.map Prod.fst := by
  match fields with
  | .nil => exact fun wire hwire => absurd hwire List.not_mem_nil
  | .cons _ wire absent _ rest =>
    obtain ⟨habsent, hneeded⟩ := Bool.and_eq_true_iff.1 needed
    obtain ⟨hfirst, hrest⟩ := ofMembers_cases hparts
    intro other hother
    rcases List.mem_cons.1 hother with rfl | hmore
    · rcases hfirst with ⟨value, hmember, -⟩ | ⟨-, hsome⟩
      · obtain ⟨before, after, rfl, -⟩ := List.lookup_eq_some_iff.1 hmember
        simp
      · rw [hsome] at habsent
        cases habsent
    · exact mem_names_of_ofMembers rest hneeded hrest other hmore

/-- The names of the fields and of the members that are kept are those of the object. -/
theorem perm_names (distinct : fields.wireNames.Nodup) (needed : fields.allNeeded) {parts : β}
    (hparts : fields.ofMembers members = .ok parts) (hnames : (members.map Prod.fst).Nodup) :
    (fields.wireNames ++
      (members.filter fun member => member.1 ∉ fields.wireNames).map Prod.fst).Perm
      (members.map Prod.fst) := by
  have hkept : ((members.filter fun member => member.1 ∉ fields.wireNames).map Prod.fst).Nodup :=
    hnames.sublist (List.filter_sublist.map _)
  have hmem := mem_names_of_ofMembers fields needed hparts
  refine (List.perm_ext_iff_of_nodup (distinct.append hkept ?_) hnames).2 fun name => ?_
  · intro name hfield hother
    obtain ⟨member, hmember, rfl⟩ := List.mem_map.1 hother
    have hforeign : member.1 ∉ fields.wireNames := of_decide_eq_true (List.mem_filter.1 hmember).2
    exact hforeign hfield
  · by_cases hfield : name ∈ fields.wireNames
    · exact iff_of_true (List.mem_append_left _ hfield) (hmem name hfield)
    · simp [hfield]

end Open

/-! ## What becomes of members without a field -/

/-- **Members without a field are harmless, and settings keep them.** Wherever a record is read that
is not open, a member that no field is named for may be added: the value and every result that is
read from it stay the same, and so does every error. All records of results are such records but the
settings. These hold the members that their four fields leave, each as it was, so that together the
names are those of the object. -/
theorem foreign_members_harmless :
    (∀ {α : Type} (shape : Shape α), shape.distinct → ∀ v v', shape.Gains v v' →
      shape.decode v' = shape.decode v ∧
      ∀ method params, (Operation.ask method params shape).read (.ok v') =
        (Operation.ask method params shape).read (.ok v)) ∧
    (∀ result ∈ closedRecords, result.2.distinct) ∧
    ∀ value settings, Settings.shape.decode value = .ok settings → ∃ members,
      let named := ["excessiveblocksize", "blockmaxsize", "maxtxsizepolicy", "minminingtxfee"]
      value = .object members ∧
      settings.other = members.filter (fun member => member.1 ∉ named) ∧
      ((members.map Prod.fst).Nodup →
        (named ++ settings.other.map Prod.fst).Perm (members.map Prod.fst)) := by
  refine ⟨fun shape distinct v v' gains => ?_, distinct_closedRecords, fun value settings h => ?_⟩
  · have hsame := gains.decode_eq distinct
    refine ⟨hsame, fun method params => ?_⟩
    simp only [Operation.ask, Outcome.decode, hsame]
  · obtain ⟨members, parts, rfl, hparts, rfl⟩ := of_decode_openRecord h
    exact ⟨members, rfl, rfl, perm_names (by decide) rfl hparts⟩

/-- The result of a batch with an unconfirmed ancestor that has this input. -/
def resultWithInput (input : List (String × Json)) : Json :=
  .object [("known", .array []), ("unconfirmed", .array [.object [("ancestors",
    .array [.object [("vin", .array [.object input])]])]])]

theorem decode_resultWithInput : SendRawTransactionsResult.shape.decode
    (resultWithInput [("vout", .int (-1))]) = .error (.invalidValue (-1) "u32") := by
  have hvout : Decode.integer .u32 (.int (-1)) = .error (.invalidValue (-1) "u32") := by rfl
  simp [resultWithInput, SendRawTransactionsResult.shape, UnconfirmedTx.shape,
    UnconfirmedAncestor.shape, TxInputRef.shape, Fields.may, Fields.need, Shape.decode,
    Fields.checkMembers, Fields.checkMember, hvout, Except.map, bind, Except.bind, pure,
    Except.pure]

/-- Five settings, one of them without a field. -/
def fiveSettings : List (String × Json) :=
  [("blockmaxsize", .word 2), ("excessiveblocksize", .word 1), ("maxstackmemoryusage", .null),
    ("maxtxsizepolicy", .word 3), ("minminingtxfee", .number (.real (.zero false)))]

theorem decode_fiveSettings : Settings.shape.decode (.object fiveSettings) =
    .ok ⟨1, 2, 3, ⟨0⟩, [("maxstackmemoryusage", .null)]⟩ := by
  have hnames : (fiveSettings.map Prod.fst).Nodup := by decide
  have hfee : Shape.coins.decode (.number (.real (.zero false))) = .ok ⟨0⟩ := by
    rw [Shape.decode]
    rfl
  exact (decode_openRecord_iff hnames).mpr ⟨_, ofMembers_member rfl (decode_word 1) <|
    ofMembers_member rfl (decode_word 2) <| ofMembers_member rfl (decode_word 3) <|
    ofMembers_member rfl hfee (by rw [Fields.ofMembers]), rfl⟩

/-- A member is added in front of one that does not fit, in an object inside three lists. And of
five settings one is kept, which makes up the names together with the four fields. -/
theorem foreign_members_harmless_deepInput :
    SendRawTransactionsResult.shape.decode
        (resultWithInput (Json.insert "sequence" (.word 7) [("vout", .int (-1))])) =
      .error (.invalidValue (-1) "u32") ∧
    ∃ settings, Settings.shape.decode (.object fiveSettings) = .ok settings ∧
      settings.other = fiveSettings.filter (fun member => member.1 = "maxstackmemoryusage") ∧
      (["excessiveblocksize", "blockmaxsize", "maxtxsizepolicy", "minminingtxfee"] ++
        settings.other.map Prod.fst).Perm (fiveSettings.map Prod.fst) := by
  constructor
  · have gains : SendRawTransactionsResult.shape.Gains (resultWithInput [("vout", .int (-1))])
        (resultWithInput (Json.insert "sequence" (.word 7) [("vout", .int (-1))])) :=
      .member (.later (.later (.later .first))) [("known", .array [])] [] <| .item [] [] <|
        .member (.later .first) [] [] <| .item [] [] <|
        .member (.later .first) [] [] <| .item [] [] <|
        .here (.word 7) [("vout", .int (-1))] (by decide)
    exact (foreign_members_harmless.1 _ (by decide) _ _ gains).1.trans decode_resultWithInput
  · obtain ⟨members, hvalue, hother, hperm⟩ :=
      foreign_members_harmless.2.2 (.object fiveSettings) _ decode_fiveSettings
    cases hvalue
    exact ⟨_, decode_fiveSettings, hother, hperm (by decide)⟩

end NodeRpc
