import NodeRpc.Proofs.Endpoint.Failures
import NodeRpc.Proofs.Shape.Records

/-!
# What a response comes to

Three questions are asked of a response, and each only if the one before it leaves the matter open.
Is its text an answer? If not, the status says whose failure that is, and the text is shown as far
as an error shows it (`Previews`). Does the answer hold an error? If so, nothing else counts, and it
is the node's own if it has the form of one (`Reports`). Is the answer for this client (`IsFor`)?
Then the call has its result.

The order is part of the statement. A node tells of the failure of a call with an answer of status
500, so the text has to come before the status; and it may not have read the identifier of a request
that it could not make sense of, so an error counts whether or not it has the identifier. An error
with somebody else's identifier is therefore reported as well. That is less strict than a reader of
the protocol would have it, and it does no harm where there is one answer for each request.

The three predicates say what counts without the functions that decide it. A node's own error is a
code and a text, and the decoder, which takes an array for any record, takes one for this record
too; so `Reports` has two constructors, and the second is not what anybody means by the form of an
error. It is there because the code has it.

Of answers without an error only those with a status of success are treated here. What a failure
comes to, when its text is an answer all the same, is in `NodeRpc.Proofs.Endpoint.Failures`.
-/

namespace NodeRpc

open Json

/-! ## Texts in errors

An error shows at most 512 characters of a text. They are characters and not bytes: the cut is
between two of them. -/

/-- What an error shows of a text. It is told by the text alone, so nothing else of an answer gets
into an error, and of a long one no more than this. -/
inductive Previews (text : List Char) : String → Prop
  /-- A text that is short is shown as it is. -/
  | whole : text.length ≤ 512 → Previews text (String.ofList text)
  /-- Of any other the start is shown, and that there is more. Its bytes are cut between two
  characters. -/
  | start (shown rest : List Char) : text = shown ++ rest → shown.length = 512 → rest ≠ [] →
      (String.ofList text).toUTF8 = (String.ofList shown).toUTF8 ++ (String.ofList rest).toUTF8 →
      Previews text (String.ofList shown ++ "...")

theorem previews_preview (text : List Char) : Previews text (preview text) := by
  unfold preview
  split
  · rename_i hlong
    refine .start (text.take previewLimit) (text.drop previewLimit) ?_ ?_ ?_ ?_
    · exact (List.take_append_drop _ _).symm
    · exact List.length_take_of_le (Nat.le_of_lt hlong)
    · intro hnil
      exact Nat.not_lt.mpr (List.drop_eq_nil_iff.mp hnil) hlong
    · have htext : String.ofList text =
          String.ofList (text.take previewLimit) ++ String.ofList (text.drop previewLimit) := by
        rw [← String.ofList_append, List.take_append_drop]
      rw [htext]
      rfl
  · rename_i hshort
    exact .whole (Nat.not_lt.mp hshort)

namespace Envelope

/-! ## Errors of a node

That the decoder takes exactly these two forms needs that the error was read from a text. A value
that was made may hold the same name twice, or its members out of order; a value inside a text may
not, and every error stands inside one. -/

/-- An error that is a node's own: a code and a text under their names, or one after the other.
Under their names there may be other members beside them; one after the other there may not. -/
inductive Reports : Json → Int64 → String → Prop
  | named {members : List (String × Json)} {code : Int64} {message : String} :
      members.lookup "code" = some (.int code) →
      members.lookup "message" = some (.string message) → Reports (.object members) code message
  | listed (code : Int64) (message : String) :
      Reports (.array [.int code, .string message]) code message

/-- The value stands one level deep in some text. -/
def StandsInside (value : Json) : Prop :=
  ∃ s rest, readValue (nestingLimit - 1) s = .ok (value, rest)

/-- The members of an object that was read are in order. -/
theorem ordered_of_readValue {depth : Nat} {s rest : List Char} {members : List (String × Json)}
    (h : readValue depth s = .ok (.object members, rest)) : Ordered members := by
  unfold readValue at h
  -- only an opening brace begins an object
  split at h
  · cases h
  · obtain ⟨_, -, h⟩ := bind_eq_ok.mp h
    cases h
  · split at h
    · cases h
    · obtain ⟨_, -, h⟩ := bind_eq_ok.mp h
      cases h
  · split at h
    · cases h
    · obtain ⟨⟨written, r⟩, -, h⟩ := bind_eq_ok.mp h
      cases h
      exact ordered_sortMembers written
  · obtain ⟨_, -, h⟩ := bind_eq_ok.mp h
    cases h
  · obtain ⟨_, -, h⟩ := bind_eq_ok.mp h
    cases h
  · obtain ⟨_, -, h⟩ := bind_eq_ok.mp h
    cases h
  · split at h
    · obtain ⟨_, -, h⟩ := bind_eq_ok.mp h
      cases h
    · cases h

theorem standsInside_of_readMember {s rest : List Char} {value : Json}
    (h : readMember s = .ok (some value, rest)) : StandsInside value := by
  obtain ⟨value', hvalue, hsome⟩ := readMember_eq_ok.mp h
  cases value' with
  | null => cases hsome
  | _ =>
    obtain rfl := Option.some.inj hsome
    exact ⟨s, rest, hvalue⟩

theorem standsInside_of_readItem {first : Bool} {s rest : List Char} {value : Json}
    (h : readItem first s = .ok (some value, rest)) : StandsInside value := by
  rcases readItem_cases h with ⟨t, hlast, -⟩ | ⟨p, -, hmember⟩
  · rw [readItem_of_last hlast first] at h
    cases h
  · exact standsInside_of_readMember hmember

/-- An error among members is one that was there before, or it was read. -/
theorem standsInside_of_readMembers {fuel : Nat} {first : Bool} {seen : List String}
    {s rest : List Char} {envelope envelope' : Envelope} {error : Json}
    (h : readMembers fuel first seen envelope s = .ok (envelope', rest))
    (hbefore : ∀ error, envelope.error = some error → StandsInside error)
    (herror : envelope'.error = some error) : StandsInside error := by
  induction fuel generalizing first seen s envelope with
  | zero => cases h
  | succ fuel ih =>
    rw [readMembers] at h
    obtain ⟨⟨name?, n⟩, -, h⟩ := bind_eq_ok.mp h
    cases name? with
    | none =>
      cases h
      exact hbefore error herror
    | some name =>
      dsimp only at h
      split at h
      · cases h
      · obtain ⟨v, -, h⟩ := bind_eq_ok.mp h
        split at h
        · obtain ⟨⟨id, r⟩, -, h⟩ := bind_eq_ok.mp h
          exact ih h hbefore
        · obtain ⟨⟨result, r⟩, -, h⟩ := bind_eq_ok.mp h
          exact ih h hbefore
        · obtain ⟨⟨error?, r⟩, hmember, h⟩ := bind_eq_ok.mp h
          refine ih h ?_
          rintro read rfl
          exact standsInside_of_readMember hmember
        · obtain ⟨r, -, h⟩ := bind_eq_ok.mp h
          exact ih h hbefore

theorem standsInside_of_parse {text : List Char} {envelope : Envelope} {error : Json}
    (h : parse text = .ok envelope) (herror : envelope.error = some error) :
    StandsInside error := by
  obtain ⟨⟨envelope', rest⟩, hanswer, h⟩ := bind_eq_ok.mp h
  obtain ⟨_, -, h⟩ := bind_eq_ok.mp h
  cases h
  unfold readAnswer at hanswer
  split at hanswer
  · obtain ⟨⟨id, s₁⟩, -, hanswer⟩ := bind_eq_ok.mp hanswer
    obtain ⟨⟨result, s₂⟩, -, hanswer⟩ := bind_eq_ok.mp hanswer
    obtain ⟨⟨error?, s₃⟩, hitem, hanswer⟩ := bind_eq_ok.mp hanswer
    obtain ⟨r, -, hanswer⟩ := bind_eq_ok.mp hanswer
    cases hanswer
    obtain rfl : error? = some error := herror
    exact standsInside_of_readItem hitem
  · exact standsInside_of_readMembers hanswer nofun herror
  · obtain ⟨⟨value, r⟩, -, hanswer⟩ := bind_eq_ok.mp hanswer
    cases hanswer

/-- **An error is decoded as a code and a text exactly if it is a node's own.** The code has to be
an integer that is written as one, and the message a text; a code of `-8.0` makes the error a
non-standard one. -/
theorem decode_errorShape_iff {error : Json} (herror : StandsInside error) {code : Int64}
    {message : String} :
    errorShape.decode error = .ok (code, message) ↔ Reports error code message := by
  -- a record may come as an object or as an array, and nothing else is a record
  cases error with
  | object members =>
    obtain ⟨s, rest, hread⟩ := herror
    unfold errorShape
    rw [decode_record_iff (ordered_of_readValue hread).names_nodup]
    constructor
    · rintro ⟨parts, hparts, hbuild⟩
      obtain ⟨value, hcode, hint, hparts⟩ := ofMembers_need hparts
      obtain ⟨value', hmessage, htext, -⟩ := ofMembers_need hparts
      cases hbuild
      rw [decode_int_iff] at hint
      rw [decode_text_iff] at htext
      subst hint htext
      exact .named hcode hmessage
    · rintro (⟨hcode, hmessage⟩ | -)
      refine ⟨(code, message, ()), ?_, rfl⟩
      refine ofMembers_member hcode (decode_int_iff.mpr rfl) ?_
      refine ofMembers_member hmessage (decode_text_iff.mpr rfl) ?_
      rw [Fields.ofMembers]
  | array items =>
    unfold errorShape
    rw [decode_record_items_iff]
    constructor
    · rintro ⟨parts, hparts, hbuild⟩
      obtain ⟨value, more, rfl, hint, hparts⟩ := ofItems_need hparts
      obtain ⟨value', more', rfl, htext, hparts⟩ := ofItems_need hparts
      obtain rfl := ofItems_nil hparts
      cases hbuild
      rw [decode_int_iff] at hint
      rw [decode_text_iff] at htext
      subst hint htext
      exact .listed _ _
    · rintro (- | -)
      refine ⟨(code, message, ()), ?_, rfl⟩
      refine ofItems_item (decode_int_iff.mpr rfl) ?_
      refine ofItems_item (decode_text_iff.mpr rfl) ?_
      rw [Fields.ofItems]
      rfl
  | _ =>
    constructor
    · intro h
      simp [errorShape, Shape.decode, Decode.unfit] at h
    · rintro (- | -)

theorem readError_of_reports {error : Json} (herror : StandsInside error) {code : Int64}
    {message : String} (h : Reports error code message) :
    readError error = .serverError code message := by
  unfold readError
  rw [(decode_errorShape_iff herror).mpr h]

theorem readError_of_not_reports {error : Json} (herror : StandsInside error)
    (h : ∀ code message, ¬Reports error code message) :
    ∃ before, readError error = .invalidResponse (before ++ error.compact) := by
  unfold readError
  cases hdecode : errorShape.decode error with
  | ok parts => exact absurd ((decode_errorShape_iff herror).mp hdecode) (h parts.1 parts.2)
  | error fault => exact ⟨_, rfl⟩

/-! ## Identifiers

A client knows its identifier as a text. A number is compared with it through the text that it would
be printed as, which is a question of its own (`NodeRpc.Proofs.Endpoint.Echoes`). -/

/-- An answer with this identifier is for the client: it has none, or the client's as a text, or a
number that is printed like it. That an answer without an identifier is for every client is lenient,
and harmless where there is one answer for each request. -/
inductive IsFor (clientId : String) : Option Json → Prop
  | missing : IsFor clientId none
  | text : IsFor clientId (some (.string clientId))
  | number (n : Number) : n.compact = clientId → IsFor clientId (some (.number n))

theorem isFor_iff {clientId : String} {id : Option Json} :
    IsFor clientId id ↔ ∀ value, id = some value → idMatches clientId value = true := by
  constructor
  · rintro (- | - | ⟨n, hn⟩) value hvalue
    · cases hvalue
    · cases hvalue
      exact beq_self_eq_true clientId
    · cases hvalue
      exact beq_iff_eq.mpr hn
  · intro h
    cases id with
    | none => exact .missing
    | some value =>
      have hmatches := h value rfl
      cases value with
      | string s =>
        obtain rfl := beq_iff_eq.mp hmatches
        exact .text
      | number n => exact .number n (beq_iff_eq.mp hmatches)
      | _ => cases hmatches

theorem outcome_of_not_isFor {envelope : Envelope} {clientId : String}
    (herror : envelope.error = none) (hid : ¬IsFor clientId envelope.id) :
    ∃ detail, envelope.outcome clientId = .error (.invalidResponse detail) := by
  unfold outcome
  rw [herror]
  cases hvalue : envelope.id with
  | none =>
    rw [hvalue] at hid
    exact absurd .missing hid
  | some value =>
    have hother : idMatches clientId value = false := by
      rw [isFor_iff, hvalue] at hid
      simpa using hid
    simp only [hother]
    exact ⟨_, rfl⟩

/-! ## Members of an answer

The fold puts members in their places one after the other. As none of the three is there twice, what
is in a place in the end is what was put there. -/

theorem lookup_eq_none_of_counted {name : String} {members : List (String × Json)}
    (hname : name ∈ names) (h : name ∉ counted members) : members.lookup name = none := by
  rw [List.lookup_eq_none_iff]
  intro member hmember
  refine bne_iff_ne.mpr ?_
  rintro rfl
  exact h (List.mem_filter.mpr ⟨List.mem_map_of_mem hmember, decide_eq_true hname⟩)

/-- **An answer holds under each of the three names what stands there.** What the answer held before
stays where no member of the name comes, which is how the fold is started with nothing. -/
theorem foldl_put {members : List (String × Json)} (h : (counted members).Nodup)
    (envelope : Envelope) : members.foldl put envelope =
      ⟨(members.lookup "id").elim envelope.id unlessNull,
        (members.lookup "result").elim envelope.result unlessNull,
        (members.lookup "error").elim envelope.error unlessNull⟩ := by
  induction members generalizing envelope with
  | nil => rfl
  | cons member members ih =>
    obtain ⟨name, value⟩ := member
    rw [List.foldl_cons]
    by_cases hname : name ∈ names
    · -- the name does not come again, so what it was given stays
      have hcounted : counted ((name, value) :: members) = name :: counted members := by
        simp [counted, hname]
      rw [hcounted, List.nodup_cons] at h
      have hmissing := lookup_eq_none_of_counted hname h.1
      rw [ih h.2]
      simp only [names, List.mem_cons, List.not_mem_nil, or_false] at hname
      rcases hname with rfl | rfl | rfl
      · simp [put, List.lookup_cons, hmissing]
      · simp [put, List.lookup_cons, hmissing]
      · simp [put, List.lookup_cons, hmissing]
    · have hcounted : counted ((name, value) :: members) = counted members := by
        simp [counted, hname]
      rw [hcounted] at h
      rw [put_foreign hname, ih h]
      have hothers : ∀ other ∈ names,
          ((name, value) :: members).lookup other = members.lookup other := fun other hother =>
        lookup_cons_of_ne fun heq => hname (heq ▸ hother)
      rw [hothers "id" (by simp [names]), hothers "result" (by simp [names]),
        hothers "error" (by simp [names])]

theorem parse_of_members {text : List Char} {members : List (String × Json)}
    (h : written text = .ok (.record members)) (hcounted : (counted members).Nodup) :
    Envelope.parse text = .ok ⟨(members.lookup "id").bind unlessNull,
      (members.lookup "result").bind unlessNull, (members.lookup "error").bind unlessNull⟩ := by
  have hparse := parse_of_written h
  simp only [Written.envelope?, if_pos hcounted, foldl_put hcounted] at hparse
  cases hread : Envelope.parse text with
  | error fault =>
    rw [hread] at hparse
    cases hparse
  | ok envelope =>
    rw [hread] at hparse
    have hbind : ∀ value? : Option Json, value?.elim none unlessNull = value?.bind unlessNull := by
      rintro (- | value)
      · rfl
      · rfl
    rw [Option.some.inj hparse, hbind, hbind, hbind]

end Envelope

open Envelope Config

/-- **What a response comes to, whatever its status and its text.**

If the text is no answer, a status that is no success is reported with it, and else the answer is
invalid; both show the text. If the answer has an error, the call fails with it, and neither the
status nor what else is in the answer counts. Of the other answers to a success the call gets the
result, null if there is none, exactly if they are for this client.

Which texts are answers is told by what is written in them. Null is the same as nothing. -/
theorem response_classified (clientId : String) (status : Nat) (text : List Char) :
    -- the outcome of a response that is there in time
    (∀ (config : Config) (delay : Nat) (body : List UInt8), config.clientId = clientId →
      answerText status body = text → delay ≤ config.requestTimeout.ticks →
      config.reply ⟨delay, .response status body⟩ =
        ⟨delay, .answers (classify clientId status text)⟩) ∧
    -- which texts are answers, and what they hold
    (∀ content, written text = .ok content → (Envelope.parse text).toOption = content.envelope?) ∧
    (∀ members, written text = .ok (.record members) → (counted members).Nodup →
      Envelope.parse text = .ok ⟨(members.lookup "id").bind unlessNull,
        (members.lookup "result").bind unlessNull, (members.lookup "error").bind unlessNull⟩) ∧
    (¬InForm text → ∃ fault, Envelope.parse text = .error fault) ∧
    -- a text that is none
    (∀ fault, Envelope.parse text = .error fault → ∃ shown, Previews text shown ∧
      (¬(200 ≤ status ∧ status < 300) →
        classify clientId status text = .error (.httpStatus status shown)) ∧
      (200 ≤ status ∧ status < 300 →
        ∃ before, classify clientId status text = .error (.invalidResponse (before ++ shown)))) ∧
    -- an answer with an error
    (∀ envelope error, Envelope.parse text = .ok envelope → envelope.error = some error →
      (∀ code message, Reports error code message →
        classify clientId status text = .error (.serverError code message)) ∧
      ((∀ code message, ¬Reports error code message) →
        ∃ before, classify clientId status text =
          .error (.invalidResponse (before ++ error.compact)))) ∧
    -- an answer without one
    (∀ envelope, Envelope.parse text = .ok envelope → envelope.error = none →
      200 ≤ status ∧ status < 300 →
      (∀ value, classify clientId status text = .ok value ↔
        IsFor clientId envelope.id ∧ envelope.result.getD .null = value) ∧
      (¬IsFor clientId envelope.id →
        ∃ detail, classify clientId status text = .error (.invalidResponse detail))) := by
  have hsuccess : Status.isSuccess status = true ↔ 200 ≤ status ∧ status < 300 := by
    simp [Status.isSuccess]
  refine ⟨?_, fun content => parse_of_written, fun members => parse_of_members, ?_, ?_, ?_, ?_⟩
  · rintro config delay body rfl rfl hdelay
    simp [Config.reply, Nat.not_lt.mpr hdelay, Config.outcome]
  · intro hform
    cases hparse : Envelope.parse text with
    | ok envelope => exact absurd (inForm_of_parse hparse) hform
    | error fault => exact ⟨fault, rfl⟩
  · intro fault hparse
    refine ⟨preview text, previews_preview text, ?_, ?_⟩
    · intro hstatus
      rw [← hsuccess] at hstatus
      simp [classify, hparse, hstatus]
    · intro hstatus
      rw [← hsuccess] at hstatus
      refine ⟨"decode JSON-RPC response: " ++ fault.describe text ++ "; body=", ?_⟩
      simp [classify, hparse, hstatus]
  · intro envelope error hparse herror
    have hinside := standsInside_of_parse hparse herror
    have hclass : classify clientId status text = .error (readError error) := by
      simp [classify, hparse, Envelope.outcome, herror]
    rw [hclass]
    constructor
    · intro code message hreports
      rw [readError_of_reports hinside hreports]
    · intro hnot
      obtain ⟨before, hread⟩ := readError_of_not_reports hinside hnot
      exact ⟨before, congrArg Except.error hread⟩
  · intro envelope hparse herror _
    have hclass : classify clientId status text = envelope.outcome clientId := by
      simp [classify, hparse]
    rw [hclass]
    constructor
    · intro value
      rw [outcome_eq_ok, isFor_iff]
      simp [herror]
    · exact outcome_of_not_isFor herror

/-- A number is for the client that it is written like, and for no other. -/
example : classify "7" 200 "[7,true]".toList = .ok (.bool true) ∧
    classify "bn" 200 "[7,true]".toList =
      .error (.invalidResponse "response id 7 does not match request id `bn`") :=
  ⟨by rfl, by rfl⟩

end NodeRpc
