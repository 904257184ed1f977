import NodeRpc.Endpoint.Http
import NodeRpc.Proofs.Endpoint.Envelopes

/-!
# Failures over HTTP

The text of an answer is tried before its status, as nodes put the failure of a call into an answer
of status 400 or 500. So the status alone tells nothing: with any of them a call succeeds if the
text is an answer that has no error and no wrong identifier (`outcome_of_failure`).

An answer needs none of its members. An object that has other members only, as a proxy may send it
with its own failure, counts as an answer without a result, and the call succeeds with null.

One would expect otherwise. What is no answer of the node should fail with the status it came with,
and an empty object of status 403 is no answer of any node. `not_every_failure_fails` refutes it
with that object, which leaves the two possibilities of mending it: an answer could be asked to have
one of its members, or a result with a status of failure could be refused. The theorem takes no
side. It says exactly which failures succeed, so that either change would show in it.

For most calls null is of no use, as it is decoded to no record. It is what a call expects that has
nothing to return, and such a call cannot tell.
-/

namespace NodeRpc

open Json

namespace Envelope

theorem outcome_eq_ok {envelope : Envelope} {expected : String} {value : Json} :
    envelope.outcome expected = .ok value ↔
      envelope.error = none ∧ (∀ id, envelope.id = some id → idMatches expected id = true) ∧
        envelope.result.getD .null = value := by
  obtain ⟨id?, result?, error?⟩ := envelope
  cases error? with
  | some error => simp [outcome]
  | none =>
    cases id? with
    | none => simp [outcome]
    | some id =>
      by_cases hmatches : idMatches expected id = true
      · simp [outcome, hmatches]
      · simp [outcome, hmatches]

theorem counted_foreign {members : List (String × Json)} (h : ∀ m ∈ members, m.1 ∉ names) :
    counted members = [] := by
  simp only [counted, List.filter_eq_nil_iff, List.mem_map, decide_eq_true_eq]
  rintro _ ⟨m, hm, rfl⟩
  exact h m hm

theorem foldl_put_foreign {members : List (String × Json)} (h : ∀ m ∈ members, m.1 ∉ names)
    (envelope : Envelope) : members.foldl put envelope = envelope := by
  induction members with
  | nil => rfl
  | cons m members ih =>
    rw [List.foldl_cons, put_foreign (h m List.mem_cons_self)]
    exact ih fun m hm => h m (List.mem_cons_of_mem _ hm)

theorem envelope?_foreign {members : List (String × Json)} (h : ∀ m ∈ members, m.1 ∉ names) :
    (Written.record members).envelope? = some {} := by
  simp [Written.envelope?, counted_foreign h, foldl_put_foreign h]

end Envelope

/-- A failure has the outcome of the answer, if the text is one. -/
theorem classify_of_failure {status : Nat} (hstatus : Status.isSuccess status = false)
    (clientId : String) (text : List Char) :
    classify clientId status text =
      ((Envelope.parse text).toOption.map (·.outcome clientId)).getD
        (.error (.httpStatus status (preview text))) := by
  unfold classify
  cases Envelope.parse text with
  | ok envelope => rfl
  | error fault =>
    simp only [hstatus]
    rfl

namespace Config

/-- **What a failure comes to.** If the text is JSON, it is told by what is written there whether it
is an answer. If the text is not even in form, the call fails with the status. The call succeeds
with the answers that have no error and no wrong identifier, and so it does with every object that
has none of the three members.

There is a gap between JSON and texts in form, and the third part closes it by speaking of what was
read. -/
theorem outcome_of_failure (config : Config) {status : Nat}
    (hstatus : Status.isSuccess status = false) (body : List UInt8) :
    (∀ value, Json.parse (answerText status body) = .ok value →
      ∃ content, written (answerText status body) = .ok content ∧ content.value = value ∧
        config.outcome (.response status body) =
          (content.envelope?.map (·.outcome config.clientId)).getD
            (.error (.httpStatus status (preview (answerText status body))))) ∧
    (¬InForm (answerText status body) → config.outcome (.response status body) =
      .error (.httpStatus status (preview (answerText status body)))) ∧
    (∀ value, config.outcome (.response status body) = .ok value ↔
      ∃ envelope, Envelope.parse (answerText status body) = .ok envelope ∧
        envelope.error = none ∧
        (∀ id, envelope.id = some id → Envelope.idMatches config.clientId id = true) ∧
        envelope.result.getD .null = value) ∧
    (∀ members, written (answerText status body) = .ok (.record members) →
      (∀ m ∈ members, m.1 ∉ Envelope.names) →
      config.outcome (.response status body) = .ok .null) := by
  have houtcome : config.outcome (.response status body) = _ :=
    classify_of_failure hstatus config.clientId (answerText status body)
  -- the body counts only through its text, whatever its bytes were
  generalize answerText status body = text at houtcome ⊢
  rw [houtcome]
  refine ⟨?_, ?_, ?_, ?_⟩
  · intro value hvalue
    rw [parse_eq_written] at hvalue
    cases hwritten : written text with
    | error fault =>
      rw [hwritten] at hvalue
      cases hvalue
    | ok content =>
      rw [hwritten] at hvalue
      cases hvalue
      exact ⟨content, rfl, rfl, by rw [Envelope.parse_of_written hwritten]⟩
  · intro hform
    cases hparse : Envelope.parse text with
    | error fault => rfl
    | ok envelope => exact absurd (Envelope.inForm_of_parse hparse) hform
  · intro value
    cases hparse : Envelope.parse text with
    | error fault => simp [Except.toOption]
    | ok envelope => simpa [Except.toOption] using Envelope.outcome_eq_ok
  · intro members hmembers hforeign
    rw [Envelope.parse_of_written hmembers, Envelope.envelope?_foreign hforeign]
    rfl

/-- A node on this machine. -/
def loopback : Config where
  connection := "http://127.0.0.1/"
  url := ⟨false, [], none, .ipv4 2130706433, none, [[]], none, none⟩
  credentials := none

theorem outcome_of_failure_forbidden :
    Status.isSuccess 403 = false ∧ loopback.outcome (.response 403 [123, 125]) = .ok .null :=
  ⟨by decide, (outcome_of_failure loopback (by decide) [123, 125]).2.2.2 [] rfl (by simp)⟩

/-- A failure without a result and without an error can be reported as a success. -/
theorem not_every_failure_fails :
    ¬∀ (config : Config) (status : Nat) (body : List UInt8), Status.isSuccess status = false →
      (∀ members, written (answerText status body) = .ok (.record members) →
        ∀ m ∈ members, m.1 ≠ "result" ∧ m.1 ≠ "error") →
      ∃ error, config.outcome (.response status body) = .error error := by
  intro hfails
  obtain ⟨error, herror⟩ := hfails loopback 403 [123, 125] (by decide) (by
    intro members hmembers
    have hempty : written (answerText 403 [123, 125]) = .ok (.record []) := rfl
    rw [hempty] at hmembers
    cases hmembers
    simp)
  have hnull : loopback.outcome (.response 403 [123, 125]) = .ok .null := rfl
  rw [hnull] at herror
  cases herror

end Config
end NodeRpc
