import NodeRpc.Call.Operation
import NodeRpc.Proofs.Call.Moves
import NodeRpc.Proofs.Endpoint.Failures
import Mathlib.Data.List.Forall2

/-!
# What parameters disclose

Parameters hold passphrases and private keys, and the key of a call is made of them. So the control
flow depends on them, and what is logged depends on the control flow. What comes through is which
calls have equal keys, and how many parameters there are: two runs that agree in that log the same
events and end their callers with the same words, whatever the parameters are
(`params_not_disclosed`).

That a passphrase does not *occur* in the log would be a weaker statement and an awkward one. A
short passphrase may well occur in a line by accident, and a log that had a digest of it would pass.
So the statement compares two runs instead. They may have different parameters, and different
transports, which is needed: the transport is what the parameters are for, and it will answer
differently. They have the same turns otherwise, in which a round trip ends as it is told to.

Two things do come through, and the hypotheses name them. The number of parameters is logged. And
whether a caller joins or starts a round trip is logged, so an observer can tell that two calls were
equal (`Turn.SamePattern`). A dispatcher that shares round trips cannot keep that to itself. Nothing
else comes through, also not into the text of an error that the caller gets.

What the transport logs is part of it. It does so at any time while a round trip is outstanding,
once its rate allows, so the turns have one for that, which logs any event of any exchange with the
parameters of the round trip (`Turn.report`).

The two runs are kept side by side. Their states match (`Timeline.Matches`) if the same callers wait
for the same slots and the round trips match one by one; the keys of these correspond, and the
correspondence is one to one.
-/

namespace NodeRpc

/-- Keys that correspond do so one to one. This is all that the control flow asks of keys: whether
two of them are equal. -/
def OneToOne (R : RequestKey → RequestKey → Prop) : Prop :=
  ∀ {k k' l l'}, R k k' → R l l' → (k = l ↔ k' = l')

/-- The same with parameters that may differ, but for their number. The keys need not be equal; they
correspond, by a relation that is fixed for the two runs. -/
structure Trip.Matches (R : RequestKey → RequestKey → Prop) (t u : Trip) : Prop where
  slot : t.slot = u.slot
  method : t.method = u.method
  count : t.params.length = u.params.length
  key : R t.key u.key

/-- Effects that cannot be told apart without the requests that are sent. A request has the
parameters in it, and it goes to the node, which is meant to have them. -/
inductive Effect.Matches : Effect → Effect → Prop
  | log (event : LogEvent) : Matches (.log event) (.log event)
  | send (slot : Nat) (method : String) (params params' : List Json) :
      Matches (.send slot method params) (.send slot method params')
  | finish (caller : CallerId) (outcome : Outcome) :
      Matches (.finish caller outcome) (.finish caller outcome)

theorem Effect.Matches.refl (effect : Effect) : Matches effect effect := by
  cases effect with
  | log event => exact .log event
  | send slot method params => exact .send slot method params params
  | finish caller outcome => exact .finish caller outcome

section Lists

variable {α β : Type} {R : α → β → Prop} {l : List α} {l' : List β}

/-- What is in one of two matching lists has a match in the other. -/
theorem exists_match (h : List.Forall₂ R l l') {a : α} (ha : a ∈ l) : ∃ b ∈ l', R a b := by
  induction h with
  | nil => cases ha
  | cons hfirst _ ih =>
    rcases List.mem_cons.mp ha with rfl | ha
    · exact ⟨_, List.mem_cons_self, hfirst⟩
    · obtain ⟨b, hb, hab⟩ := ih ha
      exact ⟨b, List.mem_cons_of_mem _ hb, hab⟩

theorem exists_match' (h : List.Forall₂ R l l') {b : β} (hb : b ∈ l') : ∃ a ∈ l, R a b :=
  exists_match h.flip hb

theorem bind_eq_of_rel {γ : Type} {x : Option α} {y : Option β} (h : Option.Rel R x y)
    {f : α → Option γ} {g : β → Option γ} (hfg : ∀ a b, R a b → f a = g b) :
    x.bind f = y.bind g := by
  cases h with
  | none => rfl
  | some hab => exact hfg _ _ hab

end Lists

namespace Dispatcher

variable {R : RequestKey → RequestKey → Prop} {d e : Dispatcher}

/-- Two dispatchers whose callers wait for the same, of round trips that match. Of the tables
nothing is said, since they are determined by the round trips. -/
structure Matches (R : RequestKey → RequestKey → Prop) (d e : Dispatcher) : Prop where
  sound : d.Sound
  sound' : e.Sound
  slots : d.coalescer.slots.size = e.coalescer.slots.size
  trips : List.Forall₂ (Trip.Matches R) d.trips e.trips
  waiting : d.waiting = e.waiting

theorem matches_empty (R : RequestKey → RequestKey → Prop) : Matches R empty empty :=
  ⟨sound_empty, sound_empty, rfl, .nil, rfl⟩

/-- Two steps that leave matching dispatchers and do the same, as far as anybody can tell. The
effects match one by one and in their order. -/
def StepMatches (R : RequestKey → RequestKey → Prop) (s s' : Dispatcher × List Effect) : Prop :=
  Matches R s.1 s'.1 ∧ List.Forall₂ Effect.Matches s.2 s'.2

/-- **A caller joins on both sides or on none**, as the keys of the round trips that are
outstanding correspond one to one. -/
theorem Matches.call (hR : OneToOne R) (h : Matches R d e) (caller : CallerId) (method : String)
    {params params' : List Json} (hcount : params.length = params'.length)
    (hkey : R (.ofCall method params) (.ofCall method params')) :
    StepMatches R (d.call caller method params) (e.call caller method params') := by
  rcases h.sound.call_cases caller method params with ⟨t, ht, htkey, heq⟩ | ⟨hnone, heq⟩
  · obtain ⟨u, hu, htu⟩ := exists_match h.trips ht
    have hukey : u.key = .ofCall method params' := (hR htu.key hkey).mp htkey
    rcases h.sound'.call_cases caller method params' with ⟨u', hu', hukey', heq'⟩ | ⟨hnone', -⟩
    · obtain rfl : u = u' :=
        List.inj_on_of_nodup_map h.sound'.keys_nodup hu hu' (hukey.trans hukey'.symm)
      rw [heq, heq']
      refine ⟨⟨h.sound.joined caller ht, h.sound'.joined caller hu, h.slots, h.trips, ?_⟩,
        .cons (.log _) .nil⟩
      show d.waiting ++ _ = e.waiting ++ _
      rw [h.waiting, htu.slot]
    · exact absurd hukey (hnone' u hu)
  · rcases h.sound'.call_cases caller method params' with ⟨u, hu, hukey, -⟩ | ⟨hnone', heq'⟩
    · obtain ⟨t, ht, htu⟩ := exists_match' h.trips hu
      exact absurd ((hR htu.key hkey).mpr hukey) (hnone t ht)
    · have hslot : (d.newTrip method params).slot = (e.newTrip method params').slot := h.slots
      rw [heq, heq']
      refine ⟨⟨h.sound.begun caller hnone, h.sound'.begun caller hnone', ?_, ?_, ?_⟩, ?_⟩
      · show (d.coalescer.slots.push none).size = (e.coalescer.slots.push none).size
        rw [Array.size_push, Array.size_push, h.slots]
      · exact List.rel_append h.trips (.cons ⟨hslot, rfl, hcount, hkey⟩ .nil)
      · show d.waiting ++ _ = e.waiting ++ _
        rw [h.waiting, hslot]
      · rw [hcount, hslot]
        exact .cons (.log _) (.cons (.send _ _ _ _) .nil)

theorem Matches.leave (h : Matches R d e) (caller : CallerId) :
    Matches R (d.leave caller) (e.leave caller) := by
  refine ⟨h.sound.leave caller, h.sound'.leave caller, h.slots, h.trips, ?_⟩
  show d.waiting.filter _ = e.waiting.filter _
  rw [h.waiting]

/-- **A round trip ends on both sides or on none**, and for the same callers. Slots are the same on
both sides, so this needs nothing of the keys. -/
theorem Matches.finishTrip (h : Matches R d e) (slot : Nat) (outcome : Option Outcome) :
    StepMatches R (d.finishTrip slot outcome) (e.finishTrip slot outcome) := by
  rcases h.sound.finishTrip_cases slot outcome with ⟨hnone, heq⟩ | ⟨t, ht, hslot, heq⟩
  · rcases h.sound'.finishTrip_cases slot outcome with ⟨-, heq'⟩ | ⟨u, hu, hslot', -⟩
    · rw [heq, heq']
      exact ⟨h, .nil⟩
    · obtain ⟨t, ht, htu⟩ := exists_match' h.trips hu
      exact absurd (htu.slot.trans hslot') (hnone t ht)
  · rcases h.sound'.finishTrip_cases slot outcome with ⟨hnone', -⟩ | ⟨u, hu, hslot', heq'⟩
    · obtain ⟨u, hu, htu⟩ := exists_match h.trips ht
      exact absurd (htu.slot.symm.trans hslot) (hnone' u hu)
    · have hsame : t.slot = u.slot := hslot.trans hslot'.symm
      rw [heq, heq']
      refine ⟨⟨h.sound.ended ht _, h.sound'.ended hu _, ?_, ?_, ?_⟩, ?_⟩
      · show (d.coalescer.slots.setIfInBounds _ _).size = (e.coalescer.slots.setIfInBounds _ _).size
        rw [Array.size_setIfInBounds, Array.size_setIfInBounds, h.slots]
      · refine List.rel_filter ?_ h.trips
        intro a b hab
        simp [hab.slot, hsame]
      · show d.waiting.filter _ = e.waiting.filter _
        rw [h.waiting, hsame]
      · have hsharers : d.sharers t = e.sharers u := by
          unfold sharers
          rw [h.waiting, hsame]
        rw [hsharers]
        exact List.forall₂_same.mpr fun effect _ => .refl effect

end Dispatcher

namespace Timeline

variable {σ τ : Type} {R : RequestKey → RequestKey → Prop} {name : String} {t : Timeline σ}
  {u : Timeline τ}

/-- Two timelines, of any transports, that have logged the same and ended the same callers, with
dispatchers that match. -/
structure Matches (R : RequestKey → RequestKey → Prop) (name : String) (t : Timeline σ)
    (u : Timeline τ) : Prop where
  dispatcher : (t.dispatcher name).Matches R (u.dispatcher name)
  now : t.now = u.now
  callers : t.callers = u.callers
  ended : t.ended = u.ended
  log : t.log = u.log

theorem matches_start (R : RequestKey → RequestKey → Prop) (name : String)
    (transport : Transport σ) (memory : σ) (transport' : Transport τ) (memory' : τ) :
    Matches R name (start transport memory) (start transport' memory') :=
  ⟨Dispatcher.matches_empty R, rfl, rfl, rfl, rfl⟩

theorem Matches.setDispatcher (h : Matches R name t u) {d e : Dispatcher} (hd : d.Matches R e) :
    Matches R name (t.setDispatcher name d) (u.setDispatcher name e) := by
  refine ⟨?_, ?_, ?_, ?_, ?_⟩
  · rw [dispatcher_setDispatcher_self, dispatcher_setDispatcher_self]
    exact hd
  · simpa using h.now
  · simpa using h.callers
  · simpa using h.ended
  · simpa using h.log

theorem Matches.conclude (h : Matches R name t u) (caller : CallerId) (ending : Ending) :
    Matches R name (t.conclude caller ending) (u.conclude caller ending) := by
  refine ⟨h.dispatcher, h.now, h.callers, ?_, h.log⟩
  show _ :: t.ended = _ :: u.ended
  rw [h.now, h.ended]

/-- Effects that match are logged alike, and end the same callers. -/
theorem Matches.perform (h : Matches R name t u) {effects effects' : List Effect}
    (heffects : List.Forall₂ Effect.Matches effects effects') :
    Matches R name (effects.foldl (perform name) t) (effects'.foldl (perform name) u) := by
  induction heffects generalizing t u with
  | nil => exact h
  | cons heffect _ ih =>
    rw [List.foldl_cons, List.foldl_cons]
    cases heffect with
    | log event =>
      exact ih ⟨h.dispatcher, h.now, h.callers, h.ended, congrArg (event :: ·) h.log⟩
    | send slot method params params' =>
      exact ih ⟨h.dispatcher, h.now, h.callers, h.ended, h.log⟩
    | finish caller outcome => exact ih (h.conclude caller (.outcome outcome))

theorem Matches.happen (h : Matches R name t u) {event event' : DispatchEvent}
    (hstep : Dispatcher.StepMatches R ((t.dispatcher name).step event)
      ((u.dispatcher name).step event')) :
    Matches R name (t.happen name event) (u.happen name event') :=
  (h.setDispatcher hstep.1).perform hstep.2

theorem Matches.drop (h : Matches R name t u) (caller : CallerId) :
    Matches R name (t.drop name caller) (u.drop name caller) :=
  h.happen ⟨h.dispatcher.leave caller, .nil⟩

theorem Matches.dismiss (h : Matches R name t u) (caller : CallerId) (ending : Ending) :
    Matches R name (t.dismiss name caller ending) (u.dismiss name caller ending) := by
  have hwaiting : t.isWaiting name caller = u.isWaiting name caller := by
    unfold isWaiting
    rw [h.dispatcher.waiting]
  unfold Timeline.dismiss
  rw [hwaiting]
  split
  · exact (h.drop caller).conclude caller ending
  · exact h

/-- One more caller has come. -/
theorem Matches.come (h : Matches R name t u) :
    Matches R name { t with callers := t.callers + 1 } { u with callers := u.callers + 1 } :=
  ⟨h.dispatcher, h.now, congrArg (· + 1) h.callers, h.ended, h.log⟩

theorem Matches.asked (hR : OneToOne R) (h : Matches R name t u) (method : String)
    {params params' : List Json} (hcount : params.length = params'.length)
    (hkey : R (.ofCall method params) (.ofCall method params')) :
    Matches R name (t.asked name method params) (u.asked name method params') := by
  have hstep := h.dispatcher.call hR u.callers method hcount hkey
  apply h.come.happen
  rw [h.callers]
  exact hstep

theorem Matches.appoint (h : Matches R name t u) (new new' : Appointment) :
    Matches R name (t.appoint new) (u.appoint new') :=
  ⟨h.dispatcher, h.now, h.callers, h.ended, h.log⟩

theorem Matches.call (hR : OneToOne R) (h : Matches R name t u) (method : String)
    {params params' : List Json} (hcount : params.length = params'.length)
    (hkey : R (.ofCall method params) (.ofCall method params')) (patience : Patience) :
    Matches R name (t.call name method params patience).2
      (u.call name method params' patience).2 := by
  have hasked := h.asked hR method hcount hkey
  rw [call_eq, call_eq]
  rcases patience with - | (- | delay) | ⟨limit, - | ticks⟩
  · exact hasked
  · -- a caller that is cancelled already does not ask
    have haway := h.come.setDispatcher h.dispatcher
    dsimp only
    rw [h.callers] at haway ⊢
    exact haway.conclude u.callers .cancelled
  · exact hasked.appoint _ _
  · dsimp only
    rw [h.callers]
    exact hasked.dismiss u.callers (.timedOut limit)
  · exact hasked.appoint _ _

theorem Matches.reply (h : Matches R name t u) (slot : Nat) (ending : TripEnd) :
    Matches R name (t.move name (.reply slot ending)) (u.move name (.reply slot ending)) := by
  rw [move_reply, move_reply]
  apply h.happen
  rw [ending.step_event, ending.step_event]
  exact h.dispatcher.finishTrip slot ending.outcome?

end Timeline

/-! ## Turns

The moves of a run, and beside them the events that the transport logs. Two runs are the same but
for parameters turn by turn, so the parameters of one caller may be changed and those of another
kept. -/

/-- What happens to a client: something that callers or the transport do, or something that the
transport logs. -/
inductive Turn where
  | move (m : Move)
  /-- The transport logs something about the exchange of an outstanding round trip, first of all
  that the request goes out. -/
  | report (slot : Nat) (exchange : Exchange) (nth : Nat)

namespace Turn

/-- The same turn, except that a caller may come with other parameters. Their number is the
same. -/
inductive SameButParams : Turn → Turn → Prop
  | call (method : String) {params params' : List Json} (patience : Patience)
      (count : params.length = params'.length) :
      SameButParams (.move (.call method params patience)) (.move (.call method params' patience))
  | same (turn : Turn) : SameButParams turn turn

/-- The key that a caller comes with. -/
def key? : Turn → Option RequestKey
  | .move (.call method params _) => some (.ofCall method params)
  | _ => none

/-- The keys that callers come with, one after the other. -/
def keys (turns : List Turn) : List RequestKey := turns.filterMap key?

/-- Whether two callers have equal keys is the same in both runs, whichever two they are. Callers of
the same run are compared, and never one of each. -/
def SamePattern (keys keys' : List RequestKey) : Prop :=
  ∀ p ∈ keys.zip keys', ∀ q ∈ keys.zip keys', p.1 = q.1 ↔ p.2 = q.2

/-- The keys of turns that are the same but for parameters correspond, caller by caller. -/
theorem forall₂_keys {turns turns' : List Turn} (h : List.Forall₂ SameButParams turns turns') :
    List.Forall₂ (fun turn turn' => SameButParams turn turn' ∧
      ∀ k k', turn.key? = some k → turn'.key? = some k' →
        (k, k') ∈ (keys turns).zip (keys turns')) turns turns' := by
  induction h with
  | nil => exact .nil
  | @cons turn turn' turns turns' hturn _ ih =>
    have hsome : turn.key?.isSome = turn'.key?.isSome := by
      cases hturn with
      | call method patience count => rfl
      | same turn => rfl
    unfold keys at ih ⊢
    -- a turn without a key adds no pair, and one with a key adds the pair in front
    cases hkey : turn.key? with
    | none =>
      have hkey' : turn'.key? = none := by simpa [hkey] using hsome
      rw [List.filterMap_cons_none hkey, List.filterMap_cons_none hkey']
      refine .cons ⟨hturn, ?_⟩ ih
      intro k k' hk
      rw [hkey] at hk
      cases hk
    | some l =>
      obtain ⟨l', hkey'⟩ : ∃ l', turn'.key? = some l' := by
        rw [hkey] at hsome
        exact Option.isSome_iff_exists.mp hsome.symm
      rw [List.filterMap_cons_some hkey, List.filterMap_cons_some hkey', List.zip_cons_cons]
      refine .cons ⟨hturn, ?_⟩ (ih.imp ?_)
      · intro k k' hk hk'
        rw [hkey] at hk
        rw [hkey'] at hk'
        cases hk
        cases hk'
        exact List.mem_cons_self
      · intro a b hab
        exact ⟨hab.1, fun k k' hk hk' => List.mem_cons_of_mem _ (hab.2 k k' hk hk')⟩

end Turn

namespace Timeline

variable {σ τ : Type} {R : RequestKey → RequestKey → Prop} {name : String} {t : Timeline σ}
  {u : Timeline τ}

/-- The transport logs the nth of the events of an exchange, if its round trip is outstanding. -/
def report (config : Config) (name : String) (t : Timeline σ) (slot : Nat) (exchange : Exchange)
    (nth : Nat) : Timeline σ :=
  let event := ((t.dispatcher name).trips.find? (·.slot = slot)).bind fun trip =>
    (config.log trip.method trip.params exchange)[nth]?
  { t with log := event.toList ++ t.log }

def turn (config : Config) (name : String) (t : Timeline σ) : Turn → Timeline σ
  | .move m => t.move name m
  | .report slot exchange nth => t.report config name slot exchange nth

/-- Takes turns one after the other. -/
def turns (t : Timeline σ) (config : Config) (name : String) (turns : List Turn) : Timeline σ :=
  turns.foldl (turn config name) t

/-- Of parameters only their number is logged. -/
theorem log_eq_of_length_eq (config : Config) (method : String) {params params' : List Json}
    (h : params.length = params'.length) (exchange : Exchange) :
    config.log method params exchange = config.log method params' exchange := by
  unfold Config.log
  rw [h]

theorem find?_matches {ts us : List Trip} (h : List.Forall₂ (Trip.Matches R) ts us) (slot : Nat) :
    Option.Rel (Trip.Matches R) (ts.find? (·.slot = slot)) (us.find? (·.slot = slot)) := by
  induction h with
  | nil => exact .none
  | cons hfirst _ ih =>
    rw [List.find?_cons, List.find?_cons, hfirst.slot]
    split
    · exact .some hfirst
    · exact ih

theorem Matches.report (h : Matches R name t u) (config : Config) (slot : Nat)
    (exchange : Exchange) (nth : Nat) :
    Matches R name (t.report config name slot exchange nth)
      (u.report config name slot exchange nth) := by
  refine ⟨h.dispatcher, h.now, h.callers, h.ended, ?_⟩
  have hevent : ((t.dispatcher name).trips.find? (·.slot = slot)).bind
        (fun trip => (config.log trip.method trip.params exchange)[nth]?) =
      ((u.dispatcher name).trips.find? (·.slot = slot)).bind
        (fun trip => (config.log trip.method trip.params exchange)[nth]?) := by
    refine bind_eq_of_rel (find?_matches h.dispatcher.trips slot) ?_
    intro trip trip' htrip
    rw [htrip.method, log_eq_of_length_eq config trip'.method htrip.count]
  unfold Timeline.report
  dsimp only
  rw [hevent, h.log]

/-- **A turn keeps timelines matching**, if its callers come with keys that correspond. That is all
that is asked of the parameters: they are in no log, no ending and no error, and the only thing that
looks at them is the comparison of keys. -/
theorem Matches.turn (hR : OneToOne R) (h : Matches R name t u) (config : Config)
    {next next' : Turn} (hnext : next.SameButParams next')
    (hkey : ∀ k k', next.key? = some k → next'.key? = some k' → R k k') :
    Matches R name (t.turn config name next) (u.turn config name next') := by
  cases hnext with
  | call method patience count => exact h.call hR method count (hkey _ _ rfl rfl) patience
  | same next =>
    cases next with
    | move m =>
      cases m with
      | call method params patience => exact h.call hR method rfl (hkey _ _ rfl rfl) patience
      | cancel caller => exact h.dismiss caller .cancelled
      | expire caller limit => exact h.dismiss caller (.timedOut limit)
      | drop caller => exact h.drop caller
      | reply slot ending => exact h.reply slot ending
    | report slot exchange nth => exact h.report config slot exchange nth

theorem Matches.turns (hR : OneToOne R) (h : Matches R name t u) (config : Config)
    {turns turns' : List Turn}
    (hturns : List.Forall₂ (fun next next' => Turn.SameButParams next next' ∧
      ∀ k k', next.key? = some k → next'.key? = some k' → R k k') turns turns') :
    Matches R name (t.turns config name turns) (u.turns config name turns') := by
  induction hturns generalizing t u with
  | nil => exact h
  | cons hnext _ ih => exact ih (h.turn hR config hnext.1 hnext.2)

end Timeline

/-- What a caller reads if it ends with an error. It is the whole text, with everything that the
error holds. -/
def Operation.errorText? {α : Type} (op : Operation α) (ending : Option Ending) : Option String :=
  match op.result? ending with
  | some (.error error) => some error.message
  | _ => none

namespace Timeline

open Turn

/-- **Parameters are not disclosed.** If two runs differ only in the parameters that callers come
with, and neither in how many these are nor in who has the same key as whom, they log the same
events in the same order, and each caller ends in the same way at the same time. What it reads if
it ends with an error is the same too, whatever it expected its outcome to be. -/
theorem params_not_disclosed {σ τ : Type} (config : Config) (name : String)
    {run run' : List Turn} (hrun : List.Forall₂ SameButParams run run')
    (hkeys : SamePattern (keys run) (keys run'))
    (transport : Transport σ) (memory : σ) (transport' : Transport τ) (memory' : τ) :
    ((start transport memory).turns config name run).log =
        ((start transport' memory').turns config name run').log ∧
      ((start transport memory).turns config name run).ended =
        ((start transport' memory').turns config name run').ended ∧
      ∀ caller method (params params' : List Json),
        (∀ {α : Type} (shape : Shape α),
          (Operation.ask method params shape).errorText?
              (((start transport memory).turns config name run).ending? caller) =
            (Operation.ask method params' shape).errorText?
              (((start transport' memory').turns config name run').ending? caller)) ∧
        (Operation.tell method params).errorText?
            (((start transport memory).turns config name run).ending? caller) =
          (Operation.tell method params').errorText?
            (((start transport' memory').turns config name run').ending? caller) := by
  have hR : OneToOne fun k k' => (k, k') ∈ (keys run).zip (keys run') :=
    fun hk hl => hkeys _ hk _ hl
  have hmatches := (matches_start _ name transport memory transport' memory').turns hR config
    (forall₂_keys hrun)
  have hending : ∀ caller, ((start transport memory).turns config name run).ending? caller =
      ((start transport' memory').turns config name run').ending? caller := by
    intro caller
    unfold ending?
    rw [hmatches.ended]
  refine ⟨hmatches.log, hmatches.ended, ?_⟩
  intro caller method params params'
  rw [hending caller]
  exact ⟨fun shape => rfl, rfl⟩

/-- Two callers unlock a wallet with the same passphrase, which the node refuses. -/
def unlocking (passphrase : String) : List Turn :=
  [.move (.call "walletpassphrase" [.text passphrase, .word 60] .unlimited),
    .move (.call "walletpassphrase" [.text passphrase, .word 60] .unlimited),
    .report 0 .lost 0,
    .move (.reply 0 (.answers (.error (.serverError (-14) "incorrect passphrase"))))]

theorem keys_unlocking (passphrase : String) : keys (unlocking passphrase) =
    List.replicate 2 (.ofCall "walletpassphrase" [.text passphrase, .word 60]) := rfl

theorem samePattern_unlocking (passphrase passphrase' : String) :
    SamePattern (keys (unlocking passphrase)) (keys (unlocking passphrase')) := by
  intro p hp q hq
  rw [keys_unlocking, keys_unlocking, List.zip_replicate'] at hp hq
  rw [List.eq_of_mem_replicate hp, List.eq_of_mem_replicate hq]
  exact iff_of_true rfl rfl

/-- The passphrase makes no difference to the log, which has three events in it. -/
theorem params_not_disclosed_unlocking :
    List.Forall₂ SameButParams (unlocking "hunter2-SECRET") (unlocking "correct-horse") ∧
      SamePattern (keys (unlocking "hunter2-SECRET")) (keys (unlocking "correct-horse")) ∧
      ((start Transport.scripted []).turns .loopback "main" (unlocking "hunter2-SECRET")).log =
        ((start Transport.scripted []).turns .loopback "main" (unlocking "correct-horse")).log ∧
      (((start Transport.scripted []).turns .loopback "main" (unlocking "hunter2-SECRET")).log.map
        (·.message)) = ["rpc call", "joined in-flight rpc call", "rpc dispatch"] := by
  have hrun : List.Forall₂ SameButParams (unlocking "hunter2-SECRET") (unlocking "correct-horse") :=
    .cons (.call _ _ rfl) (.cons (.call _ _ rfl) (.cons (.same _) (.cons (.same _) .nil)))
  have hkeys := samePattern_unlocking "hunter2-SECRET" "correct-horse"
  exact ⟨hrun, hkeys,
    (params_not_disclosed .loopback "main" hrun hkeys Transport.scripted [] Transport.scripted
      []).1, by rfl⟩

end Timeline
end NodeRpc
