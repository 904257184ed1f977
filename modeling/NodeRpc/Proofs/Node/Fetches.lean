import NodeRpc.Node.Submission
import NodeRpc.Proofs.Call.Batches
import NodeRpc.Proofs.Node.StructuredRequests
import NodeRpc.Proofs.Text.Words

/-!
# Fetching transactions

What becomes of a transaction that is fetched is read off the answer to its own call: the answer
gives the transaction (`Gives`), or fetching it fails in one of four ways (`Fails`), of which one is
told by the wording of the node's message. A batch of fetches asks once for each identifier and is
put together from these answers, each in its place (`transactions_fetched`).

A node has one error code for a transaction that it does not know and for several other things. So
the code alone does not tell them apart, and the program looks at the message, in whatever case its
letters are. `SaysUnknown` is that test as a property of the message: one of two phrases occurs in
it.

The answers come from a transport about which nothing is known, and the theorem names them: `answer`
is what the transport made of the request for an identifier. Everything else is said in terms of it,
so that the result of a batch is a matter of the answers and not of when they came. Which error a
batch ends with when several fetches fail may depend on that, and the theorem says only that it is
the error of one of them. What it excludes is an error about a transaction that was not asked for,
and a transaction in the place of another.

A text that spells a transaction of more bytes than the decoder takes is an answer that gives no
transaction. It is one of the four ways to fail, and no case of its own.
-/

namespace NodeRpc

namespace Node

/-- A message has the words of one who does not know a transaction, in whatever case its ASCII
letters are. -/
def SaysUnknown (message : String) : Prop :=
  ∃ words ∈ ["not found", "no such mempool or blockchain transaction"],
    words.toList <:+: message.toList.map Text.asciiLower

theorem saysNotFound_iff (code : Int64) (message : String) :
    saysNotFound code message = true ↔ code = -5 ∧ SaysUnknown message := by
  unfold saysNotFound SaysUnknown
  simp only [Bool.and_eq_true, beq_iff_eq, Bool.or_eq_true, Text.occursIn_iff, List.mem_cons,
    List.not_mem_nil, or_false, exists_eq_or_imp, exists_eq_left]
  rfl

/-- An answer is a text that is read as a transaction. What the node calls the transaction is not
compared with what was asked for. -/
def Gives (answer : Outcome) (tx : Transaction) : Prop :=
  ∃ hex, answer = .ok (.string hex) ∧ Transaction.ofHex hex = .ok tx

theorem Gives.unique {answer : Outcome} {tx other : Transaction} (h : Gives answer tx)
    (hother : Gives answer other) : tx = other := by
  obtain ⟨hex, rfl, htx⟩ := h
  obtain ⟨_, hsame, hother⟩ := hother
  cases hsame
  exact Except.ok.inj (htx.symm.trans hother)

/-- How fetching a transaction fails, by the answer to its call. An error of the round trip is
passed on as it is unless it is the one that has a name of its own, and an answer that is no text,
or a text that spells no transaction, is an error of what was received. -/
inductive Fails (txid : Hash) : Outcome → CallError → Prop
  | unknown {message : String} (h : SaysUnknown message) :
    Fails txid (.error (.serverError (-5) message)) (.txNotFound txid)
  /-- Any other failure of the round trip is passed on as it is. -/
  | passedOn {error : TripError}
    (h : ∀ message, error = .serverError (-5) message → ¬SaysUnknown message) :
    Fails txid (.error error) (.trip error)
  | notText {value : Json} (h : ∀ hex, value ≠ .string hex) :
    Fails txid (.ok value)
      (.decode "getrawtransaction" (.invalidType (value.found) "a string"))
  | notTransaction {hex : String} {fault : HexFault} (h : Transaction.ofHex hex = .error fault) :
    Fails txid (.ok (.string hex)) (.invalidData ("invalid transaction hex: " ++ fault.message))

section Read

variable (txid : Hash) {answer : Outcome}

/-- An error of the round trip is passed on, or it is the one that has a name of its own. -/
theorem fails_asNotFound (error : TripError) :
    Fails txid (.error error) (asNotFound txid (.trip error)) := by
  cases error with
  | serverError code message =>
    rw [asNotFound]
    by_cases hsays : saysNotFound code message = true
    · rw [if_pos hsays]
      obtain ⟨rfl, hunknown⟩ := (saysNotFound_iff code message).mp hsays
      exact .unknown hunknown
    · rw [if_neg hsays]
      refine .passedOn fun other heq hunknown => ?_
      cases heq
      exact hsays ((saysNotFound_iff _ _).mpr ⟨rfl, hunknown⟩)
  | transport detail => exact .passedOn fun _ heq => by cases heq
  | httpStatus status body => exact .passedOn fun _ heq => by cases heq
  | invalidResponse detail => exact .passedOn fun _ heq => by cases heq
  | aborted => exact .passedOn fun _ heq => by cases heq

theorem read_ok (value : Json) : (rawTransaction txid).read (.ok value) =
    (((Shape.string.decode value).mapError (.decode "getrawtransaction")).mapError
      (asNotFound txid)).bind readTransaction := rfl

theorem read_string (hex : String) :
    (rawTransaction txid).read (.ok (.string hex)) = readTransaction hex := by
  rw [read_ok, Shape.decode]
  rfl

theorem read_of_not_string {value : Json} (h : ∀ hex, value ≠ .string hex) :
    (rawTransaction txid).read (.ok value) =
      .error (.decode "getrawtransaction" (.invalidType value.found "a string")) := by
  rw [read_ok, Shape.decode]
  · rfl
  · exact h

/-- **What is made of the answer to the call for a transaction.** One of two things, for every
answer. That it is not both follows, since what is read is a function of the answer. -/
theorem read_rawTransaction (answer : Outcome) :
    (∃ tx, (rawTransaction txid).read answer = .ok tx ∧ Gives answer tx) ∨
    ∃ error, (rawTransaction txid).read answer = .error error ∧ Fails txid answer error := by
  cases answer with
  | error error => exact Or.inr ⟨_, rfl, fails_asNotFound txid error⟩
  | ok value =>
    by_cases hstring : ∃ hex, value = .string hex
    · obtain ⟨hex, rfl⟩ := hstring
      rw [read_string, readTransaction]
      cases htx : Transaction.ofHex hex with
      | ok tx => exact Or.inl ⟨tx, rfl, hex, rfl, htx⟩
      | error fault => exact Or.inr ⟨_, rfl, .notTransaction htx⟩
    · have hnot : ∀ hex, value ≠ .string hex := not_exists.mp hstring
      exact Or.inr ⟨_, read_of_not_string txid hnot, .notText hnot⟩

theorem read_eq_ok_iff {tx : Transaction} :
    (rawTransaction txid).read answer = .ok tx ↔ Gives answer tx := by
  constructor
  · intro hread
    rcases read_rawTransaction txid answer with ⟨found, hfound, hgives⟩ | ⟨error, herror, -⟩
    · obtain rfl := Except.ok.inj (hread.symm.trans hfound)
      exact hgives
    · rw [hread] at herror
      cases herror
  · rintro ⟨hex, rfl, htx⟩
    rw [read_string, readTransaction, htx]
    rfl

theorem fails_of_read {error : CallError}
    (hread : (rawTransaction txid).read answer = .error error) : Fails txid answer error := by
  rcases read_rawTransaction txid answer with ⟨tx, htx, -⟩ | ⟨found, hfound, hfails⟩
  · rw [hread] at htx
    cases htx
  · obtain rfl := Except.error.inj (hread.symm.trans hfound)
    exact hfails

/-- That a transaction was not found is said by the answer to its own call. -/
theorem Fails.of_txNotFound {other : Hash} (h : Fails txid answer (.txNotFound other)) :
    txid = other ∧
      ∃ message, answer = .error (.serverError (-5) message) ∧ SaysUnknown message := by
  cases h with
  | @unknown message hunknown => exact ⟨rfl, message, rfl, hunknown⟩

end Read

/-! ## Many at once

The identifiers may repeat, and the list without its repeats is the list of requests, in the order
of first occurrence. The burst of callers is the same for all kinds of requests; what is proved of
it elsewhere is used here for one kind. -/

theorem key_rawTransaction_injective :
    Function.Injective fun txid => (rawTransaction txid).key := by
  intro a b hkey
  obtain ⟨-, hparams⟩ := (RequestKey.ofCall_eq_iff _ _ _ _).mp hkey
  exact Json.tellsApart_hash (List.forall₂_cons.mp hparams).1

/-- Each distinct identifier starts one round trip. -/
theorem starters_rawTransactions (txids : List Hash) :
    (rawTransactions txids).starters [] = txids.eraseDups.map rawTransaction := by
  unfold rawTransactions
  rw [Batch.starters_map key_rawTransaction_injective]
  simp

/-- The results of a batch that succeeds stand where the identifiers do. -/
theorem places_of_gathers {read : Hash → Outcome} {txids : List Hash} {txs : List Transaction}
    (h : Gathers (txids.map fun txid => (rawTransaction txid).read (read txid)) (.ok txs)) :
    List.Forall₂ (fun txid tx => Gives (read txid) tx) txids txs := by
  have hboth := List.forall₂_eq_eq_eq.symm ▸ h.eq_map
  rw [List.forall₂_map_left_iff, List.forall₂_map_right_iff] at hboth
  exact hboth.imp fun txid tx hread => (read_eq_ok_iff txid).mp hread

/-- **Fetching transactions in a batch.** The identifiers may be any list, with any repetitions,
and the dispatcher is one where nothing is outstanding; all fetches come before anything comes
about. One request is sent for each distinct identifier, in the order in which they first stand,
and `answer` is what the transport makes of these. The batch succeeds exactly if each answer is a
text that is read as a transaction, and then the transactions stand where their identifiers do.
Otherwise its error is the one that fetching one of the identifiers alone makes of the answer: that
a transaction was not found is said only of one in the list, whose own answer says so. -/
theorem transactions_fetched {σ : Type} {transport : Transport σ} {t : Timeline σ}
    (h : Timeline.Reached transport t) {name : String}
    (hidle : (t.dispatcher name).inFlight = 0) (txids : List Hash) :
    let requests := txids.eraseDups.map fun txid =>
      ("getrawtransaction", [Json.string txid.text, Json.bool false])
    let run := t.runBatch name .unlimited (rawTransactions txids)
    ∃ answer : Hash → Outcome,
      txids.eraseDups.map answer =
        (transport.replies t.memory requests).map (·.ending.outcome) ∧
      run.2.requests = requests.reverse ++ t.requests ∧
      ((∃ txs, run.1 = .ok txs) ↔ ∀ txid ∈ txids, ∃ tx, Gives (answer txid) tx) ∧
      (∀ txs, run.1 = .ok txs → txs.length = txids.length ∧
        List.Forall₂ (fun txid tx => Gives (answer txid) tx) txids txs) ∧
      (∀ error, run.1 = .error error → ∃ txid ∈ txids,
        (rawTransaction txid).read (answer txid) = .error error ∧
          Fails txid (answer txid) error) ∧
      ∀ txid, run.1 = .error (.txNotFound txid) → txid ∈ txids ∧
        ∃ message, answer txid = .error (.serverError (-5) message) ∧ SaysUnknown message := by
  obtain ⟨answer, hanswer, hrequests, hgathers⟩ := h.runBatch hidle (rawTransactions txids)
  have hreads : (rawTransactions txids).map (fun op => op.read (answer op.key)) =
      txids.map fun txid => (rawTransaction txid).read (answer (rawTransaction txid).key) :=
    List.map_map
  rw [starters_rawTransactions, List.map_map, List.map_map] at hanswer
  rw [starters_rawTransactions, List.map_map] at hrequests
  rw [hreads] at hgathers
  generalize t.runBatch name .unlimited (rawTransactions txids) = run at hrequests hgathers
  obtain ⟨result, last⟩ := run
  refine ⟨fun txid => answer (rawTransaction txid).key, hanswer, hrequests, ?_, ?_, ?_, ?_⟩
  · rw [hgathers.exists_ok_iff, List.forall_mem_map]
    simp only [read_eq_ok_iff]
  · rintro txs rfl
    have hplaces := places_of_gathers hgathers
    exact ⟨hplaces.length_eq.symm, hplaces⟩
  · rintro error rfl
    obtain ⟨txid, htxid, hread⟩ := List.mem_map.mp hgathers.error_mem
    exact ⟨txid, htxid, hread, fails_of_read txid hread⟩
  · rintro txid rfl
    obtain ⟨other, hother, hread⟩ := List.mem_map.mp hgathers.error_mem
    obtain ⟨rfl, hsays⟩ := (fails_of_read other hread).of_txNotFound
    exact ⟨hother, hsays⟩

/-! ### Three fetches, two answers -/

/-- The text of a transaction with one input and one output, with a last digit of its lock time. -/
def plainHex (digit : Char) : String :=
  String.ofList ("0100000001".toList ++ List.replicate 72 '0' ++ "00ffffffff".toList ++
    "01".toList ++ List.replicate 18 '0' ++ '0' :: digit :: List.replicate 6 '0')

def plainTx (lockTime : UInt32) : Transaction :=
  ⟨1, [⟨⟨List.replicate 32 0, rfl⟩, 0, [], 0xffffffff, []⟩], [⟨⟨0⟩, []⟩], lockTime⟩

theorem gives_plainTx : Gives (.ok (.string (plainHex '0'))) (plainTx 0) ∧
    Gives (.ok (.string (plainHex '1'))) (plainTx 1) :=
  ⟨⟨_, rfl, by decide +kernel⟩, ⟨_, rfl, by decide +kernel⟩⟩

/-- A transport that is faster with its second reply than with its first. -/
def hastening : Transport Nat :=
  ⟨fun count _ _ => (⟨20 - 10 * count,
    .answers (.ok (.string (plainHex (if count = 0 then '0' else '1'))))⟩, count + 1)⟩

def txidOf (byte : UInt8) : Hash := ⟨List.replicate 32 byte, List.length_replicate⟩

/-- The first identifier stands at the end once more. It is asked for once, and though its answer
comes last, the transactions stand in the order of the identifiers. -/
theorem transactions_fetched_hastening :
    let run := (Timeline.start hastening 0).runBatch "node" .unlimited
      (rawTransactions [txidOf 1, txidOf 2, txidOf 1])
    run.2.requests =
      [("getrawtransaction", [.string (txidOf 2).text, .bool false]),
        ("getrawtransaction", [.string (txidOf 1).text, .bool false])] ∧
    run.1 = .ok [plainTx 0, plainTx 1, plainTx 0] := by
  have hidle : ((Timeline.start hastening 0).dispatcher "node").inFlight = 0 := rfl
  have hdistinct : [txidOf 1, txidOf 2, txidOf 1].eraseDups = [txidOf 1, txidOf 2] := by decide
  obtain ⟨answer, hanswer, hrequests, hok, hplaces, -, -⟩ :=
    transactions_fetched (.start 0) hidle [txidOf 1, txidOf 2, txidOf 1]
  rw [hdistinct] at hanswer hrequests
  obtain ⟨hfirst, hanswer⟩ := List.cons.inj hanswer
  obtain ⟨hsecond, -⟩ := List.cons.inj hanswer
  have hone : Gives (answer (txidOf 1)) (plainTx 0) := hfirst ▸ gives_plainTx.1
  have htwo : Gives (answer (txidOf 2)) (plainTx 1) := hsecond ▸ gives_plainTx.2
  have hexpected : List.Forall₂ (fun txid tx => Gives (answer txid) tx)
      [txidOf 1, txidOf 2, txidOf 1] [plainTx 0, plainTx 1, plainTx 0] :=
    .cons hone (.cons htwo (.cons hone .nil))
  obtain ⟨txs, htxs⟩ := hok.mpr <| by
    simp only [List.forall_mem_cons, List.not_mem_nil, false_implies, implies_true, and_true]
    exact ⟨⟨_, hone⟩, ⟨_, htwo⟩, _, hone⟩
  refine ⟨hrequests, htxs.trans (congrArg Except.ok ?_)⟩
  exact List.right_unique_forall₂' (fun _ _ _ h h' => h.unique h') (hplaces txs htxs).2 hexpected

end Node
end NodeRpc
