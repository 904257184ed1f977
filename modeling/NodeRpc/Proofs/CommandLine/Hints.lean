import NodeRpc.CommandLine.Report
import NodeRpc.Proofs.Number.Digits
import NodeRpc.Proofs.Text.Words

/-!
# Which hint an error gets

A hint is chosen by words, and they are looked for in the whole text of the error. Of a server error
that text has the node's message, and of an HTTP failure the start of its body, so both are searched
as well: a message or a body that has the words of a hint gets it, whatever its own class. What is
put in front of them is known. No hint is in the lead of a server error, and in that of an HTTP
failure is the one that its status is for (`not_namedIn_serverLead`, `namedIn_statusLead_iff`).

One would rather have a hint go by the class of an error. A server error came over a connection that
works, so no hint about connections can be right for it, and a status of 401 is about authentication
whatever the body says. Both fail, and `not_hints_by_class` has the cases: `tls` in a message is
enough for the hint about encryption, and `tls` in a body is enough to lose the one about
authentication. Three letters are easily part of something else.

So the condition is stated on words, exactly, for every message, body, code and status. The hints
are data: the words of each, the statuses that it is for, and its place among the others. That a
hint is given is then the same as that it is the first that applies (`First`), and the order in
which the program happens to test the words is a consequence of the places.
-/

namespace NodeRpc.CommandLine

namespace Hint

/-- The words that a hint goes by. -/
def words : Hint → List String
  | hostname => ["dns error", "Could not resolve host"]
  | encryption => ["certificate", "tls"]
  | authentication => ["HTTP 401", "HTTP 403"]
  | path => ["HTTP 404"]
  | unsent => []

/-- The statuses that a hint is for. -/
def statuses : Hint → List Nat
  | authentication => [401, 403]
  | path => [404]
  | _ => []

/-- The place of a hint among all. Of two that apply the earlier is given. -/
def rank : Hint → Nat
  | hostname => 0
  | encryption => 1
  | authentication => 2
  | path => 3
  | unsent => 4

/-- A text has the words of a hint. -/
def NamedIn (hint : Hint) (text : List Char) : Prop :=
  ∃ phrase ∈ hint.words, phrase.toList <:+: text

instance (hint : Hint) (text : List Char) : Decidable (hint.NamedIn text) :=
  decidable_of_iff (hint.words.any fun phrase => Text.occursIn phrase.toList text) <| by
    simp [NamedIn, Text.occursIn_iff]

/-- A status is written with the digits of one that a hint is for, and maybe more behind them. A
status has three digits, so more behind them never occurs, but words are looked for and not
numbers. -/
def Suits (hint : Hint) (status : Nat) : Prop :=
  ∃ code ∈ hint.statuses, digitChars code <+: digitChars status

/-- A hint is the first of those that apply. -/
def First (applies : Hint → Prop) (hint : Hint) : Prop :=
  applies hint ∧ ∀ other : Hint, other.rank < hint.rank → ¬applies other

theorem first_congr {applies others : Hint → Prop} (h : ∀ hint, applies hint ↔ others hint)
    (hint : Hint) : First applies hint ↔ First others hint := by
  simp only [First, h]

theorem forall_iff {p : Hint → Prop} :
    (∀ hint, p hint) ↔ p .hostname ∧ p .encryption ∧ p .authentication ∧ p .path ∧ p .unsent :=
  ⟨fun h => ⟨h _, h _, h _, h _, h _⟩,
    fun ⟨_, _, _, _, _⟩ hint => by cases hint <;> assumption⟩

/-- The first hint that applies, found by trying one after the other. -/
def pick (applies : Hint → Prop) [DecidablePred applies] : Option Hint :=
  if applies .hostname then some .hostname
  else if applies .encryption then some .encryption
  else if applies .authentication then some .authentication
  else if applies .path then some .path
  else if applies .unsent then some .unsent
  else none

theorem pick_eq_some_iff {applies : Hint → Prop} [DecidablePred applies] {hint : Hint} :
    pick applies = some hint ↔ First applies hint := by
  unfold pick First
  rw [forall_iff]
  cases hint <;> simp only [rank] <;> grind

theorem pick_eq_none_iff {applies : Hint → Prop} [DecidablePred applies] :
    pick applies = none ↔ ∀ hint, ¬applies hint := by
  unfold pick
  rw [forall_iff]
  grind

theorem first_authentication_iff {applies : Hint → Prop} :
    First applies .authentication ↔
      applies .authentication ∧ ¬applies .hostname ∧ ¬applies .encryption := by
  unfold First
  rw [forall_iff]
  simp [rank]

theorem first_path_iff {applies : Hint → Prop} :
    First applies .path ↔
      applies .path ∧ ¬applies .hostname ∧ ¬applies .encryption ∧ ¬applies .authentication := by
  unfold First
  rw [forall_iff]
  simp [rank]

@[simp] theorem not_suits_hostname (status : Nat) : ¬hostname.Suits status := by
  simp [Suits, statuses]

@[simp] theorem not_suits_encryption (status : Nat) : ¬encryption.Suits status := by
  simp [Suits, statuses]

theorem message_injective {hint other : Hint} (h : hint.message = other.message) :
    hint = other := by
  cases hint <;> cases other <;> first | rfl | exact absurd h (by decide)

end Hint

/-- A hint applies to an error: the text of the error has its words, or it is the one for what was
not sent and the error is one of the round trip. -/
def Hint.Applies (error : CallError) (hint : Hint) : Prop :=
  hint.NamedIn error.message.toList ∨
    hint = .unsent ∧ ∃ trip : TripError, error = .trip trip ∧ trip.isTransport = true

/-- That a hint goes by its words is what the search for them finds out. -/
theorem Hint.applies_iff_search (error : CallError) (hint : Hint) (h : hint ≠ .unsent) :
    Applies error hint ↔
      (hint.words.any fun phrase => Text.occursIn phrase.toList error.message.toList) = true := by
  simp [Applies, NamedIn, Text.occursIn_iff, h]

theorem Hint.applies_unsent_iff (error : CallError) :
    Applies error .unsent ↔ ∃ trip : TripError, error = .trip trip ∧ trip.isTransport = true := by
  simp [Applies, NamedIn, words]

open Classical in
theorem hint?_eq_pick (error : CallError) : hint? error = Hint.pick (Hint.Applies error) := by
  have search := Hint.applies_iff_search error
  simp only [Hint.pick, search .hostname (by decide), search .encryption (by decide),
    search .authentication (by decide), search .path (by decide), Hint.applies_unsent_iff,
    Hint.words, List.any_cons, List.any_nil, Bool.or_false]
  unfold hint?
  cases error with
  | trip trip =>
    simp only [CallError.trip.injEq, exists_eq_left']
  | _ => simp only [reduceCtorEq, false_and, exists_false, if_false]

theorem hint?_eq_some_iff {error : CallError} {hint : Hint} :
    hint? error = some hint ↔ Hint.First (Hint.Applies error) hint := by
  classical
  rw [hint?_eq_pick, Hint.pick_eq_some_iff]

theorem hint?_eq_none_iff {error : CallError} :
    hint? error = none ↔ ∀ hint, ¬Hint.Applies error hint := by
  classical
  rw [hint?_eq_pick, Hint.pick_eq_none_iff]

/-! ## What is written in front of a message or a body

The words could stand partly in the lead and partly in what follows it. They do not, as a colon is
between the two and no words have one. That leaves the lead to be looked at alone, and it consists
of fixed words and a number. -/

/-- What a server error begins with. -/
def serverLead (code : Int64) : List Char :=
  "RPC server error ".toList ++ (toString code.toInt).toList

/-- What an HTTP failure begins with. -/
def statusLead (status : Nat) : List Char :=
  "RPC endpoint returned HTTP ".toList ++ (toString status).toList

theorem toList_message_serverError (code : Int64) (message : String) :
    (TripError.serverError code message).message.toList =
      serverLead code ++ ':' :: ' ' :: message.toList := by
  show ("RPC server error " ++ toString code.toInt ++ ": " ++ message).toList = _
  rw [String.toList_append, String.toList_append, String.toList_append, List.append_assoc]
  rfl

theorem toList_message_httpStatus (status : Nat) (body : String) :
    (TripError.httpStatus status body).message.toList =
      statusLead status ++ ':' :: ' ' :: body.toList := by
  show ("RPC endpoint returned HTTP " ++ toString status ++ ": " ++ body).toList = _
  rw [String.toList_append, String.toList_append, String.toList_append, List.append_assoc]
  rfl

/-- No words of a hint have a colon, and none begin with a space. -/
theorem Hint.words_plain {hint : Hint} {phrase : String} (h : phrase ∈ hint.words) :
    ':' ∉ phrase.toList ∧ ∃ first rest, phrase.toList = first :: rest ∧ first ≠ ' ' := by
  cases hint <;> simp only [Hint.words, List.mem_cons, List.not_mem_nil, or_false] at h <;>
    rcases h with rfl | rfl <;> exact ⟨by decide, _, _, rfl, by decide⟩

/-- The words of a hint are in a lead or in what it leads to, but not partly in both. -/
theorem Hint.namedIn_lead_iff {hint : Hint} {lead text : List Char} :
    hint.NamedIn (lead ++ ':' :: ' ' :: text) ↔ hint.NamedIn lead ∨ hint.NamedIn text := by
  have hphrase : ∀ phrase ∈ hint.words, phrase.toList <:+: lead ++ ':' :: ' ' :: text ↔
      phrase.toList <:+: lead ∨ phrase.toList <:+: text := by
    intro phrase hmem
    obtain ⟨hcolon, first, rest, hfirst, hspace⟩ := Hint.words_plain hmem
    have hbehind : ¬phrase.toList <+: ' ' :: text := by
      rw [hfirst]
      exact fun h => hspace (List.cons_prefix_cons.mp h).1
    rw [Text.infix_append_cons_iff hcolon, List.infix_cons_iff]
    simp [hbehind]
  constructor
  · rintro ⟨phrase, hmem, h⟩
    exact ((hphrase phrase hmem).mp h).imp (fun h => ⟨phrase, hmem, h⟩) fun h => ⟨phrase, hmem, h⟩
  · rintro (⟨phrase, hmem, h⟩ | ⟨phrase, hmem, h⟩)
    · exact ⟨phrase, hmem, (hphrase phrase hmem).mpr (.inl h)⟩
    · exact ⟨phrase, hmem, (hphrase phrase hmem).mpr (.inr h)⟩

theorem toList_toString_nat (n : Nat) : (toString n).toList = digitChars n := by
  simp [digitChars]

theorem isDigit_of_mem_toString {n : Int} {c : Char} (h : c ∈ (toString n).toList) :
    c = '-' ∨ c.isDigit = true := by
  cases n with
  | ofNat n =>
    have hc : c ∈ (toString n).toList := h
    rw [toList_toString_nat] at hc
    exact .inr (isDigit_of_mem_digitChars hc)
  | negSucc n =>
    have hc : c ∈ ("-" ++ toString (n + 1)).toList := h
    rw [String.toList_append, List.mem_append, toList_toString_nat] at hc
    rcases hc with hc | hc
    · exact .inl (List.mem_singleton.mp hc)
    · exact .inr (isDigit_of_mem_digitChars hc)

/-- The words of a hint all have a letter that is not in the lead of a server error. -/
theorem Hint.not_namedIn_serverLead (hint : Hint) (code : Int64) :
    ¬hint.NamedIn (serverLead code) := by
  have hphrase : ∀ phrase ∈ hint.words, phrase.toList.any ['d', 't', 'H'].contains = true := by
    cases hint <;> decide
  have hletter : ∀ c, ['d', 't', 'H'].contains c = true →
      c ∉ "RPC server error ".toList ∧ ¬(c = '-' ∨ c.isDigit = true) := by
    intro c hc
    rcases (by simpa using hc : c = 'd' ∨ c = 't' ∨ c = 'H') with rfl | rfl | rfl <;> decide
  rintro ⟨phrase, hmem, h⟩
  obtain ⟨c, hin, hc⟩ := List.any_eq_true.mp (hphrase phrase hmem)
  rcases List.mem_append.mp (h.subset hin) with hin | hin
  · exact (hletter c hc).1 hin
  · exact (hletter c hc).2 (isDigit_of_mem_toString hin)

/-- The words that go with a status. -/
def statusWords (status : Nat) : List Char := 'H' :: ("TTP ".toList ++ digitChars status)

/-- They begin with a capital that the lead of an HTTP failure has in one place. -/
theorem statusWords_infix_statusLead {code status : Nat} :
    statusWords code <:+: statusLead status ↔ digitChars code <+: digitChars status := by
  have hlead : statusLead status =
      "RPC endpoint returned ".toList ++ 'H' :: ("TTP ".toList ++ digitChars status) := by
    rw [← toList_toString_nat status]
    rfl
  have hbehind : 'H' ∉ "TTP ".toList ++ digitChars status := by
    intro h
    rcases List.mem_append.mp h with h | h
    · exact absurd h (by decide)
    · exact absurd (isDigit_of_mem_digitChars h) (by decide)
  rw [hlead, statusWords, Text.cons_infix_append_cons_iff (by decide) hbehind,
    List.prefix_append_right_inj]

/-- In the lead of an HTTP failure is the hint that its status is for. -/
theorem Hint.namedIn_statusLead_iff {hint : Hint} {status : Nat} :
    hint.NamedIn (statusLead status) ↔ hint.Suits status := by
  have hphrase : ∀ phrase ∈ hint.words, phrase.toList.any ['s', 'f'].contains = true ∨
      ∃ code ∈ hint.statuses, phrase.toList = statusWords code := by
    cases hint <;> decide
  have hcode : ∀ code ∈ hint.statuses, ∃ phrase ∈ hint.words, phrase.toList = statusWords code := by
    cases hint <;> decide
  have hletter : ∀ c, ['s', 'f'].contains c = true →
      c ∉ "RPC endpoint returned HTTP ".toList ∧ ¬c.isDigit = true := by
    intro c hc
    rcases (by simpa using hc : c = 's' ∨ c = 'f') with rfl | rfl <;> decide
  constructor
  · rintro ⟨phrase, hmem, h⟩
    rcases hphrase phrase hmem with hplain | ⟨code, hstatus, hwords⟩
    · -- a letter of the words is not in the lead
      obtain ⟨c, hin, hc⟩ := List.any_eq_true.mp hplain
      rcases List.mem_append.mp (h.subset hin) with hin | hin
      · exact absurd hin (hletter c hc).1
      · rw [toList_toString_nat] at hin
        exact absurd (isDigit_of_mem_digitChars hin) (hletter c hc).2
    · rw [hwords] at h
      exact ⟨code, hstatus, statusWords_infix_statusLead.mp h⟩
  · rintro ⟨code, hstatus, h⟩
    obtain ⟨phrase, hmem, hwords⟩ := hcode code hstatus
    exact ⟨phrase, hmem, hwords ▸ statusWords_infix_statusLead.mpr h⟩

theorem Hint.applies_serverError_iff {code : Int64} {message : String} {hint : Hint} :
    Applies (.trip (.serverError code message)) hint ↔ hint.NamedIn message.toList := by
  have htext : (CallError.trip (.serverError code message)).message.toList =
      serverLead code ++ ':' :: ' ' :: message.toList := toList_message_serverError code message
  have hprotocol : (TripError.serverError code message).isTransport = false := rfl
  unfold Applies
  rw [htext, namedIn_lead_iff]
  simp [not_namedIn_serverLead, hprotocol]

theorem Hint.applies_httpStatus_iff {status : Nat} {body : String} {hint : Hint} :
    Applies (.trip (.httpStatus status body)) hint ↔
      hint.NamedIn body.toList ∨ hint.Suits status ∨ hint = .unsent := by
  have htext : (CallError.trip (.httpStatus status body)).message.toList =
      statusLead status ++ ':' :: ' ' :: body.toList := toList_message_httpStatus status body
  have htransport : (TripError.httpStatus status body).isTransport = true := rfl
  unfold Applies
  rw [htext, namedIn_lead_iff, namedIn_statusLead_iff]
  simp [htransport, or_assoc, or_left_comm]

/-! ## What is said about a failed call

A hint is a line that is added. The lines before it do not depend on it, and the messages of the
hints are all different, so which hint was chosen can be told from the whole text. -/

/-- The lines about a failed call, but for a hint. -/
def summary (url : String) (error : CallError) : String :=
  "RPC endpoint `" ++ url ++ "`\nRPC error: " ++ error.message

/-- No hint is added to what is said about a failed call. -/
def AddsNone (url : String) (error : CallError) : Prop := describe url error = summary url error

/-- A hint is added to what is said about a failed call, and nothing else is. -/
def Adds (url : String) (error : CallError) (hint : Hint) : Prop :=
  describe url error = summary url error ++ "\n" ++ hint.message

/-- What is added after the lines about a failed call. -/
def added : Option Hint → String
  | some hint => "\n" ++ hint.message
  | none => ""

theorem added_injective {hint? other? : Option Hint} (h : added hint? = added other?) :
    hint? = other? := by
  cases hint? with
  | none =>
    cases other? with
    | none => rfl
    | some other => exact absurd h (by cases other <;> decide)
  | some hint =>
    cases other? with
    | none => exact absurd h (by cases hint <;> decide)
    | some other => rw [Hint.message_injective ((String.append_right_inj _).mp h)]

theorem describe_eq_iff {url : String} {error : CallError} {other? : Option Hint} :
    describe url error = summary url error ++ added other? ↔ hint? error = other? := by
  have hdescribe : describe url error = summary url error ++ added (hint? error) := by
    unfold describe
    cases hint? error <;> rfl
  constructor
  · intro h
    exact added_injective ((String.append_right_inj _).mp (hdescribe.symm.trans h))
  · rintro rfl
    exact hdescribe

theorem addsNone_iff {url : String} {error : CallError} :
    AddsNone url error ↔ ∀ hint, ¬Hint.Applies error hint := by
  rw [← hint?_eq_none_iff, ← describe_eq_iff]
  show _ ↔ _ = _ ++ ""
  rw [String.append_empty]
  rfl

theorem adds_iff {url : String} {error : CallError} {hint : Hint} :
    Adds url error hint ↔ Hint.First (Hint.Applies error) hint := by
  rw [← hint?_eq_some_iff, ← describe_eq_iff]
  show _ ↔ _ = _ ++ (_ ++ _)
  rw [← String.append_assoc]
  rfl

theorem adds_httpStatus_iff {url : String} {status : Nat} {body : String} {hint : Hint} :
    Adds url (.trip (.httpStatus status body)) hint ↔
      Hint.First (fun hint => hint.NamedIn body.toList ∨ hint.Suits status ∨ hint = .unsent)
        hint := by
  rw [adds_iff]
  exact Hint.first_congr (fun _ => Hint.applies_httpStatus_iff) hint

/-- **A message or a body is searched for a hint as well.** A server error gets none exactly when
its message has the words of none, whatever its code, and else the first whose words the message
has. An HTTP failure gets the first of which its body has the words or which its status is for, and
if there is none the one for what was not sent. So 401 and 403 are taken for a failed
authentication, and 404 for a wrong path, exactly as long as the body has no words of an earlier
hint, and two failures of one status get the same hint if their bodies have words of the same
hints. -/
theorem hints_by_words (url message body : String) (code : Int64) (status : Nat) :
    ((AddsNone url (.trip (.serverError code message)) ↔
        ∀ hint : Hint, ¬hint.NamedIn message.toList) ∧
      ∀ hint, Adds url (.trip (.serverError code message)) hint ↔
        Hint.First (fun hint => hint.NamedIn message.toList) hint) ∧
    (¬AddsNone url (.trip (.httpStatus status body)) ∧
      ∀ hint, Adds url (.trip (.httpStatus status body)) hint ↔
        Hint.First (fun hint => hint.NamedIn body.toList ∨ hint.Suits status ∨ hint = .unsent)
          hint) ∧
    (status = 401 ∨ status = 403 →
      (Adds url (.trip (.httpStatus status body)) .authentication ↔
        ¬Hint.hostname.NamedIn body.toList ∧ ¬Hint.encryption.NamedIn body.toList)) ∧
    (status = 404 →
      (Adds url (.trip (.httpStatus status body)) .path ↔
        ¬Hint.hostname.NamedIn body.toList ∧ ¬Hint.encryption.NamedIn body.toList ∧
          ¬Hint.authentication.NamedIn body.toList)) ∧
    ∀ other : String, (∀ hint : Hint, hint.NamedIn body.toList ↔ hint.NamedIn other.toList) →
      ∀ hint, Adds url (.trip (.httpStatus status body)) hint ↔
        Adds url (.trip (.httpStatus status other)) hint := by
  refine ⟨⟨?_, fun hint => ?_⟩, ⟨?_, fun hint => adds_httpStatus_iff⟩, fun hstatus => ?_,
    fun hstatus => ?_, fun other hnamed hint => ?_⟩
  · rw [addsNone_iff]
    exact forall_congr' fun _ => not_congr Hint.applies_serverError_iff
  · rw [adds_iff]
    exact Hint.first_congr (fun _ => Hint.applies_serverError_iff) hint
  · rw [addsNone_iff]
    exact fun h => h .unsent (Hint.applies_httpStatus_iff.mpr (.inr (.inr rfl)))
  · have hsuits : Hint.authentication.Suits status := by
      rcases hstatus with rfl | rfl <;> exact ⟨_, by decide, List.prefix_rfl⟩
    rw [adds_httpStatus_iff, Hint.first_authentication_iff]
    simp [hsuits]
  · subst hstatus
    have hsuits : Hint.path.Suits 404 := ⟨404, by decide, List.prefix_rfl⟩
    -- a status suits a hint by its digits, and 404 is neither 401 nor 403
    have hnot : ¬Hint.authentication.Suits 404 := by
      rintro ⟨code, hcode, h⟩
      exact absurd h (by revert code; decide)
    rw [adds_httpStatus_iff, Hint.first_path_iff]
    simp [hsuits, hnot]
  · rw [adds_httpStatus_iff, adds_httpStatus_iff]
    exact Hint.first_congr (fun named => or_congr_left (hnamed named)) hint

/-- A method that the node does not know gets no hint, a password that it does not know the one for
that, and a path that it does not know the one for that. -/
theorem hints_by_words_plain :
    AddsNone "http://127.0.0.1:8332" (.trip (.serverError (-32601) "Method not found")) ∧
      Adds "http://127.0.0.1:8332" (.trip (.httpStatus 401 "")) .authentication ∧
      Adds "http://127.0.0.1:8332/x" (.trip (.httpStatus 404 "<h1>Not Found</h1>")) .path := by
  obtain ⟨⟨hserver, -⟩, -, hrefused, -⟩ :=
    hints_by_words "http://127.0.0.1:8332" "Method not found" "" (-32601) 401
  obtain ⟨-, -, -, hunknown, -⟩ :=
    hints_by_words "http://127.0.0.1:8332/x" "" "<h1>Not Found</h1>" 0 404
  refine ⟨hserver.mpr fun hint => ?_, (hrefused (.inl rfl)).mpr ⟨by decide, by decide⟩,
    (hunknown rfl).mpr ⟨by decide, by decide, by decide⟩⟩
  cases hint <;> decide

/-- Three letters in a message or a body are enough for another hint. -/
theorem not_hints_by_class :
    (¬∀ url code message, AddsNone url (.trip (.serverError code message))) ∧
    (¬∀ url body, Adds url (.trip (.httpStatus 401 body)) .authentication) ∧
    (¬∀ url body, Adds url (.trip (.httpStatus 404 body)) .path) ∧
    ¬∀ url status body other hint, Adds url (.trip (.httpStatus status body)) hint ↔
      Adds url (.trip (.httpStatus status other)) hint := by
  have htls : Hint.encryption.NamedIn "tls".toList := by decide
  have hrefused (h : Adds "" (.trip (.httpStatus 401 "tls")) .authentication) : False :=
    (Hint.first_authentication_iff.mp (adds_httpStatus_iff.mp h)).2.2 (.inl htls)
  have hsuits : Hint.authentication.Suits 401 := ⟨401, by decide, List.prefix_rfl⟩
  have hplain : Adds "" (.trip (.httpStatus 401 "")) .authentication := by
    rw [adds_httpStatus_iff, Hint.first_authentication_iff]
    simp only [hsuits, Hint.not_suits_hostname, Hint.not_suits_encryption, reduceCtorEq]
    decide
  refine ⟨fun h => ?_, fun h => hrefused (h _ _), fun h => ?_, fun h => ?_⟩
  · exact addsNone_iff.mp (h "" (-1) "tls") .encryption (Hint.applies_serverError_iff.mpr htls)
  · exact (Hint.first_path_iff.mp (adds_httpStatus_iff.mp (h "" "tls"))).2.2.1 (.inl htls)
  · exact hrefused ((h "" 401 "" "tls" .authentication).mp hplain)

end NodeRpc.CommandLine
