import NodeRpc.Call.Coalescer

/-!
# Transports

A transport answers a request some time after it is sent, with an outcome or by dying. It may
remember what it was asked. The scripted transport answers by rules: the first rule that fits a
request answers it.

What a transport is to the calls is only this: for each request a delay and an end. Nothing is asked
of it. It may take as long as it likes, answer the same request differently each time and die as
often as it wants, and what is proved about calls is proved for all transports of this kind. Dying
is an end without an answer, as when the task that speaks to the node is gone; what a failed
connection gives is an outcome like any other.

It is asked in the order in which the requests are sent and it answers in an order of its own, by
the delays.
-/

namespace NodeRpc

/-- How a round trip ends. -/
inductive TripEnd where
  | answers (outcome : Outcome)
  | dies

/-- What a transport makes of a request: how long its round trip takes, in
milliseconds, and how it ends. -/
structure Reply where
  delay : Nat
  ending : TripEnd

/-- A transport with a memory of type `σ`. -/
structure Transport (σ : Type) where
  send : σ → String → List Json → Reply × σ

/-- What is answered to the requests of one method, or to one request of it only. -/
structure Rule where
  method : String
  /-- The compact text of the parameters, if the rule is for these alone. -/
  params : Option String
  delay : Nat
  dies : Bool
  /-- One outcome for each request in turn; the last is repeated. -/
  outcomes : List Outcome

namespace Rule

/-- Whether a request is answered by this rule. -/
def fits (rule : Rule) (method : String) (params : List Json) : Bool :=
  rule.method == method &&
    match rule.params with
    | some text => (Json.array params).compact == text
    | none => true

/-- The outcome when nothing is said about it. -/
def greeting : Outcome := .ok (.string "ohiya")

/-- The answer to the next request, and the rule for those after it. -/
def answer (rule : Rule) : Reply × Rule :=
  if rule.dies then (⟨rule.delay, .dies⟩, rule)
  else
    match rule.outcomes with
    | [] => (⟨rule.delay, .answers greeting⟩, rule)
    | [last] => (⟨rule.delay, .answers last⟩, rule)
    | next :: later => (⟨rule.delay, .answers next⟩, { rule with outcomes := later })

end Rule

/-- The answer of the first rule that fits, and the rules after it. A request that
no rule fits is answered at once. -/
def answerByRules (method : String) (params : List Json) : List Rule → Reply × List Rule
  | [] => (⟨0, .answers Rule.greeting⟩, [])
  | rule :: rest =>
    if rule.fits method params then
      let (reply, rule) := rule.answer
      (reply, rule :: rest)
    else
      let (reply, rest) := answerByRules method params rest
      (reply, rule :: rest)

/-- The transport that answers by rules and remembers which answers are used up. -/
def Transport.scripted : Transport (List Rule) :=
  ⟨fun rules method params => answerByRules method params rules⟩

end NodeRpc
