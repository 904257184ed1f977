import NodeRpc.Proofs.Call.Happen
import NodeRpc.Proofs.Call.Trips

/-!
# Runs of one dispatcher

The moves of a single dispatcher, in any order: callers come, with any patience, a round trip may
end at any time and in any way, and callers may be cancelled, run out of time or be dropped at any
time. Nothing is assumed about when a transport answers.

That is more than can happen. In a timeline the transport says how a round trip ends, an alarm goes
off when it is due and not before, and a caller that has ended is not cancelled. A law that holds
for all moves in any order therefore holds for every way in which the program's tasks can be
scheduled, also for those that this model of time does not show, and it is the stronger for not
asking what made a move happen. Laws that do ask, as they are about when something ends, are about
plans (`NodeRpc.Proofs.Call.Plans`).

What a move does to the dispatcher is one of its own runs (`dispatcher_play`), so what holds of all
of these holds at every point of every order of moves. Two moves need a case analysis, `call_cases`
and `reply_cases`; the others only let somebody leave.
-/

namespace NodeRpc

namespace TripEnd

/-- What those who share a round trip get when it ends. -/
def outcome : TripEnd → Outcome
  | .answers outcome => outcome
  | .dies => .error .aborted

/-- What there is to publish. -/
def outcome? : TripEnd → Option Outcome
  | .answers outcome => some outcome
  | .dies => none

theorem shared_outcome? (ending : TripEnd) :
    Dispatcher.shared ending.outcome? = ending.outcome := by
  cases ending with
  | answers outcome => rfl
  | dies => rfl

/-- The end of a slot's round trip, as it happens to a dispatcher. -/
def event (slot : Nat) : TripEnd → DispatchEvent
  | .answers outcome => .complete slot outcome
  | .dies => .die slot

theorem step_event (d : Dispatcher) (slot : Nat) (ending : TripEnd) :
    d.step (ending.event slot) = d.finishTrip slot ending.outcome? := by
  cases ending with
  | answers outcome => rfl
  | dies => rfl

end TripEnd

/-- What can happen to a dispatcher and its callers. A move that makes no sense, about a caller that
is gone or a slot that is not outstanding, is a move all the same. -/
inductive Move where
  | call (method : String) (params : List Json) (patience : Patience)
  | cancel (caller : CallerId)
  /-- A caller runs out of time. -/
  | expire (caller : CallerId) (limit : Duration)
  | drop (caller : CallerId)
  /-- The round trip of a slot ends. -/
  | reply (slot : Nat) (ending : TripEnd)

/-- Whether a caller comes. -/
def Move.isCall : Move → Bool
  | .call _ _ _ => true
  | .cancel _ => false
  | .expire _ _ => false
  | .drop _ => false
  | .reply _ _ => false

namespace Timeline

variable {σ : Type}

def move (name : String) (t : Timeline σ) : Move → Timeline σ
  | .call method params patience => (t.call name method params patience).2
  | .cancel caller => t.dismiss name caller .cancelled
  | .expire caller limit => t.dismiss name caller (.timedOut limit)
  | .drop caller => t.drop name caller
  | .reply slot ending => t.comeAbout ⟨t.now, .reply name slot ending⟩

/-- Makes moves one after the other. -/
def play (t : Timeline σ) (name : String) (moves : List Move) : Timeline σ :=
  moves.foldl (move name) t

theorem play_append (t : Timeline σ) (name : String) (moves more : List Move) :
    t.play name (moves ++ more) = (t.play name moves).play name more := by
  unfold play
  rw [List.foldl_append]

theorem play_snoc (t : Timeline σ) (name : String) (moves : List Move) (m : Move) :
    t.play name (moves ++ [m]) = (t.play name moves).move name m := play_append t name moves [m]

theorem move_reply (t : Timeline σ) (name : String) (slot : Nat) (ending : TripEnd) :
    t.move name (.reply slot ending) = t.happen name (ending.event slot) := by
  cases ending with
  | answers outcome => rfl
  | dies => rfl

theorem now_move (t : Timeline σ) (name : String) (m : Move) : (t.move name m).now = t.now := by
  cases m with
  | call method params patience => exact now_call t name method params patience
  | cancel caller => exact now_dismiss t name caller _
  | expire caller limit => exact now_dismiss t name caller _
  | drop caller => exact now_happen t name _
  | reply slot ending =>
    rw [move_reply]
    exact now_happen t name _

theorem callers_move (t : Timeline σ) (name : String) (m : Move) :
    (t.move name m).callers = t.callers + m.isCall.toNat := by
  cases m with
  | call method params patience => exact callers_call t name method params patience
  | cancel caller => exact callers_dismiss t name caller _
  | expire caller limit => exact callers_dismiss t name caller _
  | drop caller => exact callers_happen t name _
  | reply slot ending => exact callers_comeAbout t _

/-! ## What a move does to the dispatcher and to the endings

Both lemmas speak of the dispatcher and of the list of endings together. A proof about who ended
needs to know in the same breath whether the round trip is gone. -/

section Moves

variable (t : Timeline σ) (name : String)

/-- A caller that comes asks and ends later, or it asks and is out of time at once, or it
does not even ask. -/
theorem call_cases (method : String) (params : List Json) (patience : Patience) :
    ((t.move name (.call method params patience)).dispatcher name =
        ((t.dispatcher name).call t.callers method params).1 ∧
      (t.move name (.call method params patience)).ended = t.ended) ∨
    (∃ limit, patience = .within limit 0 ∧
      (t.move name (.call method params patience)).dispatcher name =
        ((t.dispatcher name).call t.callers method params).1.leave t.callers ∧
      (t.move name (.call method params patience)).ended =
        ⟨t.callers, t.now, .timedOut limit⟩ :: t.ended) ∨
    (patience = .cancelledAfter 0 ∧
      (t.move name (.call method params patience)).dispatcher name = t.dispatcher name ∧
      (t.move name (.call method params patience)).ended =
        ⟨t.callers, t.now, .cancelled⟩ :: t.ended) := by
  have hdispatcher := dispatcher_asked_self t name method params
  have hended := ended_asked t name method params
  have hmove : t.move name (.call method params patience) = _ :=
    call_eq t name method params patience
  -- no limit, cancelled at once or later, out of time at once or later
  rcases patience with - | (- | delay) | ⟨limit, - | ticks⟩
  · exact Or.inl (hmove ▸ ⟨hdispatcher, hended⟩)
  · refine Or.inr (Or.inr ⟨rfl, ?_, ?_⟩)
    · rw [hmove]
      exact dispatcher_setDispatcher_self _ name _
    · rw [hmove]
      unfold conclude
      simp
  · exact Or.inl (hmove ▸ ⟨hdispatcher, hended⟩)
  · rcases dismiss_cases (t.asked name method params) name t.callers (.timedOut limit) with
      ⟨hleft, hnew⟩ | hsame
    · refine Or.inr (Or.inl ⟨limit, rfl, ?_, ?_⟩)
      · rw [hmove, hleft, hdispatcher]
      · rw [hmove, hnew, now_asked, hended]
    · exact Or.inl (by rw [hmove]; dsimp only; rw [hsame]; exact ⟨hdispatcher, hended⟩)
  · exact Or.inl (hmove ▸ ⟨hdispatcher, hended⟩)

/-- The end of a round trip that is not outstanding does nothing; else it ends the round trip
and exactly those who share it. -/
theorem reply_cases (hsound : (t.dispatcher name).Sound) (slot : Nat) (ending : TripEnd) :
    ((∀ trip ∈ (t.dispatcher name).trips, trip.slot ≠ slot) ∧
      (t.move name (.reply slot ending)).dispatcher name = t.dispatcher name ∧
      (t.move name (.reply slot ending)).ended = t.ended) ∨
    (∃ trip ∈ (t.dispatcher name).trips, trip.slot = slot ∧
      (t.move name (.reply slot ending)).dispatcher name =
        (t.dispatcher name).ended trip ending.outcome ∧
      (t.move name (.reply slot ending)).ended =
        (((t.dispatcher name).sharers trip).map
          (⟨·, t.now, .outcome ending.outcome⟩)).reverse ++ t.ended) := by
  have hdispatcher := dispatcher_happen_self t name (ending.event slot)
  have hended := ended_happen t name (ending.event slot)
  rw [move_reply]
  rw [ending.step_event] at hdispatcher hended
  rcases hsound.finishTrip_cases slot ending.outcome? with
    ⟨hnone, heq⟩ | ⟨trip, htrip, hslot, heq⟩
  · rw [heq] at hdispatcher hended
    exact Or.inl ⟨hnone, hdispatcher, hended⟩
  · rw [heq, ending.shared_outcome?] at hdispatcher hended
    refine Or.inr ⟨trip, htrip, hslot, hdispatcher, ?_⟩
    have hadded : (((t.dispatcher name).sharers trip).map
        (Effect.finish · ending.outcome)).filterMap (endedBy t.now) =
        ((t.dispatcher name).sharers trip).map (⟨·, t.now, .outcome ending.outcome⟩) := by
      rw [List.filterMap_map]
      exact congrFun List.filterMap_eq_map' _
    rw [hended, hadded]

end Moves

/-! ## Moves as runs of the dispatcher -/

theorem dispatcher_move (t : Timeline σ) (name : String) (m : Move) : ∃ events,
    (t.move name m).dispatcher name = ((t.dispatcher name).run events).1 := by
  have hdismiss : ∀ caller ending, ∃ events, (t.dismiss name caller ending).dispatcher name =
      ((t.dispatcher name).run events).1 := by
    intro caller ending
    rcases dismiss_cases t name caller ending with ⟨hleft, -⟩ | hsame
    · exact ⟨[.leave caller], hleft⟩
    · exact ⟨[], by rw [hsame]; rfl⟩
  cases m with
  | call method params patience =>
    rcases call_cases t name method params patience with ⟨hd, -⟩ | ⟨_, -, hd, -⟩ | ⟨-, hd, -⟩
    · exact ⟨[.call t.callers method params], hd⟩
    · exact ⟨[.call t.callers method params, .leave t.callers], hd⟩
    · exact ⟨[], hd⟩
  | cancel caller => exact hdismiss caller .cancelled
  | expire caller limit => exact hdismiss caller (.timedOut limit)
  | drop caller => exact ⟨[.leave caller], dispatcher_happen_self t name _⟩
  | reply slot ending =>
    rw [move_reply]
    exact ⟨[ending.event slot], dispatcher_happen_self t name _⟩

/-- **Moves take the dispatcher along one of its runs.** What is known of all runs of the machine is
so known of it at any point of any play, and nothing has to be proved again with time in it. -/
theorem dispatcher_play (t : Timeline σ) (name : String) (moves : List Move) : ∃ events,
    (t.play name moves).dispatcher name = ((t.dispatcher name).run events).1 := by
  induction moves generalizing t with
  | nil => exact ⟨[], rfl⟩
  | cons m moves ih =>
    obtain ⟨first, hfirst⟩ := dispatcher_move t name m
    obtain ⟨events, hevents⟩ := ih (t.move name m)
    refine ⟨first ++ events, ?_⟩
    rw [Dispatcher.run_append, ← hfirst]
    exact hevents

theorem sound_play (transport : Transport σ) (memory : σ) (name : String) (moves : List Move) :
    (((start transport memory).play name moves).dispatcher name).Sound := by
  obtain ⟨events, hevents⟩ := dispatcher_play (start transport memory) name moves
  rw [hevents]
  exact Dispatcher.sound_empty.run events

end Timeline
end NodeRpc
