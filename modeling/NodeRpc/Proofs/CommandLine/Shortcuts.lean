import NodeRpc.Proofs.CommandLine.Bursts
import NodeRpc.Proofs.Shape.Reencoding

/-!
# What the shortcuts print

A shortcut decodes the result of its call and prints the encoding of what it has decoded, so what it
prints need not be what the node has sent. It says the same, though: it is decoded to the same
result again.

A reader of the output may want to feed it to another program, which is why this matters and why it
is said of what is printed and not only of the encoder. The members are printed in the order of the
fields, and whoever reads them from there has them sorted; both are decoded again.

Five results are encoded and three of them are shown by a shortcut. The other two are parts of
larger ones, and the same is said of them.
-/

namespace NodeRpc.CommandLine

/-- What a job prints is what its operation reads from some outcome. -/
theorem Job.of_run_eq_ok {job : Job} {arrival : Arrival} {text : String}
    (h : (job.run arrival).result = .ok text) : ∃ outcome value,
      job.operation.read outcome = .ok value ∧ text = value.pretty ++ "\n" := by
  obtain ⟨ending, hresults⟩ := job.results_eq_replicate arrival
  obtain ⟨more, hmore⟩ : ∃ more, max (job.burst.getD 1) 1 = more + 1 :=
    ⟨max (job.burst.getD 1) 1 - 1, by omega⟩
  have hresults := hresults job.burst
  rw [hmore, List.replicate_succ] at hresults
  unfold Job.run at h
  rw [hresults] at h
  cases ending with
  | outcome outcome =>
    cases hread : job.operation.read outcome with
    | ok value =>
      simp only [Ending.result, hread] at h
      cases h
      exact ⟨outcome, value, hread, rfl⟩
    | error error =>
      simp only [Ending.result, hread] at h
      cases h
  | cancelled | timedOut => cases h

theorem read_ask_map_eq_ok_iff {α β : Type} {method : String} {params : List Json}
    {shape : Shape α} {f : α → β} {outcome : Outcome} {b : β} :
    ((Operation.ask method params shape).map f).read outcome = .ok b ↔
      ∃ value a, outcome = .ok value ∧ shape.decode value = .ok a ∧ f a = b := by
  show (outcome.decode method shape >>= fun a => .ok (f a)) = .ok b ↔ _
  rw [Json.bind_eq_ok]
  cases outcome with
  | ok value => simp [Outcome.decode, mapError_eq_ok_iff]
  | error error => simp [Outcome.decode]

/-- A command that shows a result as it is encoded. What is printed is that encoding. -/
def Command.Shows {α : Type} (command : Command) (shape : Shape α) : Prop :=
  (∀ value a, shape.decode value = .ok a →
    command.operation.read (.ok value) = .ok (shape.encode a)) ∧
  ∀ (job : Job) (arrival : Arrival) (text : String), job.operation = command.operation →
    (job.run arrival).result = .ok text →
      ∃ value a, shape.decode value = .ok a ∧ text = (shape.encode a).pretty ++ "\n"

theorem Command.shows_of_operation {α : Type} {command : Command} {method : String}
    {params : List Json} {shape : Shape α}
    (h : command.operation = (Operation.ask method params shape).map shape.encode) :
    command.Shows shape := by
  refine ⟨fun value a hdecode => ?_, fun job arrival text hjob hprinted => ?_⟩
  · rw [h]
    exact read_ask_map_eq_ok_iff.mpr ⟨value, a, rfl, hdecode, rfl⟩
  · obtain ⟨outcome, printed, hread, rfl⟩ := Job.of_run_eq_ok hprinted
    rw [hjob, h] at hread
    obtain ⟨value, a, -, hdecode, rfl⟩ := read_ask_map_eq_ok_iff.mp hread
    exact ⟨value, a, hdecode, rfl⟩

/-- **What was decoded is decoded again from what it is encoded as.** That is so for every result
that is encoded, whatever it was decoded from. Three of them are shown by a shortcut each, and what
the shortcut prints is what it is encoded as. -/
theorem decoded_again :
    (∀ value info, Info.shape.decode value = .ok info → Info.shape.Again info) ∧
    (∀ value info, ChainInfo.shape.decode value = .ok info → ChainInfo.shape.Again info) ∧
    (∀ value info, MiningInfo.shape.decode value = .ok info → MiningInfo.shape.Again info) ∧
    (∀ value input, TxInputRef.shape.decode value = .ok input → TxInputRef.shape.Again input) ∧
    (∀ value output, FrozenOutpoint.shape.decode value = .ok output →
      FrozenOutpoint.shape.Again output) ∧
    Command.info.Shows Info.shape ∧ Command.chainInfo.Shows ChainInfo.shape ∧
    Command.miningInfo.Shows MiningInfo.shape :=
  ⟨fun _ _ => again_of_decode_record lawful_info,
    fun _ _ => again_of_decode_record lawful_chainInfo,
    fun _ _ => again_of_decode_record lawful_miningInfo,
    fun _ _ => again_of_decode_record lawful_txInputRef,
    fun _ _ => again_of_decode_record lawful_frozenOutpoint,
    Command.shows_of_operation rfl, Command.shows_of_operation rfl,
    Command.shows_of_operation rfl⟩

/-- An outpoint as an array, with capital digits. -/
def capitalOutpoint : Json := .array [.string (String.ofList (List.replicate 64 'A')), .word 3]

/-- Mining state in whole numbers, with less than all members and one without a field. -/
def shortMiningInfo : List (String × Json) :=
  [("blocks", .word 7), ("chain", .string "main"), ("difficulty", .word 1),
    ("networkhashps", .word 0), ("pooledtx", .word 0), ("warnings", .array [])]

theorem decode_capitalOutpoint : FrozenOutpoint.shape.decode capitalOutpoint =
    .ok ⟨⟨List.replicate 32 0xAA, rfl⟩, 3⟩ := by
  have htxid : Shape.hash.decode (.string (String.ofList (List.replicate 64 'A'))) =
      .ok ⟨List.replicate 32 0xAA, rfl⟩ := by
    cbv
  have hvout : Shape.u32.decode (.word 3) = .ok 3 := by
    cbv
  exact decode_record_items_iff.mpr ⟨_, ofItems_item htxid <| ofItems_item hvout <|
    by rw [Fields.ofItems]; rfl, rfl⟩

theorem decode_shortMiningInfo : ∃ info,
    MiningInfo.shape.decode (.object shortMiningInfo) = .ok info := by
  have hnames : (shortMiningInfo.map Prod.fst).Nodup := by decide
  have hreal (n : UInt64) : ∃ x, Shape.real.decode (.word n) = .ok x := by
    rw [Shape.decode]
    exact ⟨_, rfl⟩
  obtain ⟨x, hx⟩ := hreal 1
  obtain ⟨y, hy⟩ := hreal 0
  exact ⟨_, (decode_record_iff hnames).mpr ⟨_, ofMembers_member rfl (decode_word 7) <|
    ofMembers_absent rfl <| ofMembers_absent rfl <| ofMembers_member rfl hx <|
    ofMembers_absent rfl <| ofMembers_member rfl hy <| ofMembers_member rfl (decode_word 0) <|
    ofMembers_member rfl (decode_text_iff.mpr rfl) <| by rw [Fields.ofMembers], rfl⟩⟩

/-- Neither is what it is encoded as, and both are decoded again. -/
theorem decoded_again_otherForms :
    (∃ output, FrozenOutpoint.shape.decode capitalOutpoint = .ok output ∧
      FrozenOutpoint.shape.Again output) ∧
    ∃ info, MiningInfo.shape.decode (.object shortMiningInfo) = .ok info ∧
      MiningInfo.shape.Again info ∧
      Command.miningInfo.operation.read (.ok (.object shortMiningInfo)) =
        .ok (MiningInfo.shape.encode info) := by
  obtain ⟨-, -, hmining, -, hfrozen, -, -, hshows, -⟩ := decoded_again
  obtain ⟨info, hinfo⟩ := decode_shortMiningInfo
  exact ⟨⟨_, decode_capitalOutpoint, hfrozen _ _ decode_capitalOutpoint⟩,
    info, hinfo, hmining _ _ hinfo, hshows _ _ hinfo⟩

end NodeRpc.CommandLine
