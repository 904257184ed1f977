import NodeRpc.Call.Operation
import NodeRpc.Proofs.Call.KeyIdentity
import NodeRpc.Proofs.Call.Moves

/-!
# The right answer, never a stale one

A caller that gets an outcome gets that of one round trip, and the questions are which one and
whether it still was under way. Both could go wrong without anybody noticing, as a wrong answer and
a stale one are perfectly good answers to something.

The answer is a fact about the history of a run, not about a state, so the invariant here (`Traced`)
speaks of the moves made so far: for everyone who waits and for everyone who ended, it points at the
move with which the caller came, and for an outcome at the move with which its round trip ended.
`Answered` puts the two together. The caller came before the reply, it took part in the round trip
from the moment it came, the round trip was outstanding then and was outstanding still when the
reply came. That is what "never a stale one" is to mean: no caller is given an outcome that was
there before it asked, not even one that had come a moment before.

`Answered` also says that the request of the round trip is the caller's own. It could say that the
two have the same key, and that would be true by the way round trips are joined. But keys are texts,
and what a caller cares about is the request. So it is said with `Json.Same`: the same method, and
parameters that are the same up to the order of members, which is where `RequestKey.ofCall_eq_iff`
comes in. Two callers who wrote the members of an object in another order do share an answer
(`sharedDeath`).

That everyone who shares a round trip ends in the same way is a separate clause, about any two
callers that were answered by it. And that each of them decodes for itself is said for every shape
at once: the same outcome, read as whatever the caller asked for.
-/

namespace NodeRpc.Timeline

variable {σ : Type}

/-! ## Who shares a round trip

Three relations between a caller and the moves of a run: it took part in a round trip, it gave up in
its own way, or it was answered. Each of them, once true, is true of every longer run
(`Shares.more`, `GaveUp.more`, `Answered.more`), which is what makes them usable in an invariant. -/

/-- Among the moves made, a caller came with a request and took part in a round trip: one
that was outstanding when it came, or the one that it started. -/
def Shares (t : Timeline σ) (name : String) (moves : List Move) (caller : CallerId)
    (method : String) (params : List Json) (trip : Trip) : Prop :=
  ∃ before patience after, moves = before ++ .call method params patience :: after ∧
    caller = (t.play name before).callers ∧
    (trip ∈ ((t.play name before).dispatcher name).trips ∨
      trip = ((t.play name before).dispatcher name).newTrip method params) ∧
    trip ∈ ((t.play name (before ++ [.call method params patience])).dispatcher name).trips

/-- A caller's own way to end: it was cancelled or ran out of time, later or when it came. -/
inductive GaveUp (t : Timeline σ) (name : String) (moves : List Move) (caller : CallerId) :
    Ending → Prop
  | cancelled (h : .cancel caller ∈ moves) : GaveUp t name moves caller .cancelled
  | expired {limit : Duration} (h : .expire caller limit ∈ moves) :
    GaveUp t name moves caller (.timedOut limit)
  | cancelledAtOnce {before after : List Move} {method : String} {params : List Json}
    (hmoves : moves = before ++ .call method params (.cancelledAfter 0) :: after)
    (hcaller : caller = (t.play name before).callers) : GaveUp t name moves caller .cancelled
  | expiredAtOnce {before after : List Move} {method : String} {params : List Json}
    {limit : Duration} (hmoves : moves = before ++ .call method params (.within limit 0) :: after)
    (hcaller : caller = (t.play name before).callers) :
    GaveUp t name moves caller (.timedOut limit)

/-- A caller got the outcome of a round trip for its own request, in which it took part and
which was outstanding until it ended with that outcome. -/
def Answered (t : Timeline σ) (name : String) (moves : List Move) (caller : CallerId)
    (method : String) (params : List Json) (trip : Trip) (ending : TripEnd) : Prop :=
  ∃ earlier later, moves = earlier ++ .reply trip.slot ending :: later ∧
    t.Shares name earlier caller method params trip ∧
    trip ∈ ((t.play name earlier).dispatcher name).trips ∧
    trip.method = method ∧ List.Forall₂ Json.Same trip.params params

section More

variable {t : Timeline σ} {name : String} {moves : List Move} {caller : CallerId}
  {method : String} {params : List Json} {trip : Trip}

theorem Shares.more (h : t.Shares name moves caller method params trip)
    (more : List Move) : t.Shares name (moves ++ more) caller method params trip := by
  obtain ⟨before, patience, after, rfl, hcaller, htrip, hafter⟩ := h
  exact ⟨before, patience, after ++ more, by simp, hcaller, htrip, hafter⟩

theorem GaveUp.more {ending : Ending} (h : t.GaveUp name moves caller ending)
    (more : List Move) : t.GaveUp name (moves ++ more) caller ending := by
  cases h with
  | cancelled h => exact .cancelled (List.mem_append_left _ h)
  | expired h => exact .expired (List.mem_append_left _ h)
  | cancelledAtOnce hmoves hcaller =>
    exact .cancelledAtOnce (by rw [hmoves, List.append_assoc]; rfl) hcaller
  | expiredAtOnce hmoves hcaller =>
    exact .expiredAtOnce (by rw [hmoves, List.append_assoc]; rfl) hcaller

theorem Answered.more {ending : TripEnd}
    (h : t.Answered name moves caller method params trip ending) (more : List Move) :
    t.Answered name (moves ++ more) caller method params trip ending := by
  obtain ⟨earlier, later, rfl, hrest⟩ := h
  exact ⟨earlier, later ++ more, by simp, hrest⟩

end More

/-! ## The history of who waits and who ended

One invariant, and a lemma for each kind of move. The moves that let somebody leave are all of one
form (`Traced.of_leave`); a caller that comes and a reply are the two that are not. -/

/-- Everyone who waits or ended can be traced to the moves made. The clause for those who wait is
the stronger one, as it says that their round trip is outstanding now; it is what a reply turns into
the clause for those who ended. -/
structure Traced (t : Timeline σ) (name : String) (moves : List Move) : Prop where
  sound : ((t.play name moves).dispatcher name).Sound
  /-- Who waits, waits for a round trip for its own request in which it takes part. -/
  waiting : ∀ w ∈ ((t.play name moves).dispatcher name).waiting, ∃ method params trip,
    t.Shares name moves w.caller method params trip ∧
    trip ∈ ((t.play name moves).dispatcher name).trips ∧ w.pending = ⟨trip.slot⟩ ∧
    trip.method = method ∧ List.Forall₂ Json.Same trip.params params
  ended : ∀ e ∈ (t.play name moves).ended, t.GaveUp name moves e.caller e.ending ∨
    ∃ method params trip ending, e.ending = .outcome ending.outcome ∧
      t.Answered name moves e.caller method params trip ending

theorem traced_nil (transport : Transport σ) (memory : σ) (name : String) :
    (start transport memory).Traced name [] := by
  refine ⟨Dispatcher.sound_empty, ?_, ?_⟩
  · intro w hw
    cases hw
  · intro e he
    cases he

section Step

variable {t : Timeline σ} {name : String} {moves : List Move}

theorem Traced.ended_more (h : t.Traced name moves) (more : List Move) {e : Ended}
    (he : e ∈ (t.play name moves).ended) : t.GaveUp name (moves ++ more) e.caller e.ending ∨
      ∃ method params trip ending, e.ending = .outcome ending.outcome ∧
        t.Answered name (moves ++ more) e.caller method params trip ending := by
  rcases h.ended e he with hgave | ⟨method, params, trip, ending, heq, hanswered⟩
  · exact Or.inl (hgave.more more)
  · exact Or.inr ⟨method, params, trip, ending, heq, hanswered.more more⟩

/-- A round trip with the key of a call is for the same request. -/
theorem same_request {trip : Trip} {method : String} {params : List Json}
    (h : trip.key = .ofCall method params) :
    trip.method = method ∧ List.Forall₂ Json.Same trip.params params := by
  obtain ⟨hmethod, hparams⟩ := RequestKey.ofCall_eq_iff_sorted.mp h
  exact ⟨hmethod, Json.map_sorted_eq_iff.mp hparams⟩

/-- A move after which the dispatcher is as it was but for who left, and which ends callers
only in their own way. -/
theorem Traced.of_leave (h : t.Traced name moves) {m : Move}
    (hsound : ((t.play name (moves ++ [m])).dispatcher name).Sound)
    (htrips : ((t.play name (moves ++ [m])).dispatcher name).trips =
      ((t.play name moves).dispatcher name).trips)
    (hwaiting : ∀ w ∈ ((t.play name (moves ++ [m])).dispatcher name).waiting,
      w ∈ ((t.play name moves).dispatcher name).waiting)
    (hended : ∀ e ∈ (t.play name (moves ++ [m])).ended, e ∈ (t.play name moves).ended ∨
      t.GaveUp name (moves ++ [m]) e.caller e.ending) : t.Traced name (moves ++ [m]) := by
  refine ⟨hsound, ?_, ?_⟩
  · intro w hw
    obtain ⟨method, params, trip, hshares, htrip, hrest⟩ := h.waiting w (hwaiting w hw)
    exact ⟨method, params, trip, hshares.more [m], htrips ▸ htrip, hrest⟩
  · intro e he
    rcases hended e he with he | hgave
    · exact h.ended_more [m] he
    · exact Or.inl hgave

theorem Traced.dismiss (h : t.Traced name moves) {m : Move} {caller : CallerId} {ending : Ending}
    (hmove : (t.play name moves).move name m = (t.play name moves).dismiss name caller ending)
    (hgave : t.GaveUp name (moves ++ [m]) caller ending) : t.Traced name (moves ++ [m]) := by
  have hplay : t.play name (moves ++ [m]) = (t.play name moves).dismiss name caller ending := by
    rw [play_snoc, hmove]
  rcases dismiss_cases (t.play name moves) name caller ending with ⟨hleft, hnew⟩ | hsame
  · rw [← hplay] at hleft hnew
    refine h.of_leave (hleft ▸ h.sound.leave caller) (by rw [hleft]; rfl) ?_
      ?_
    · intro w hw
      rw [hleft] at hw
      exact List.mem_of_mem_filter hw
    · intro e he
      rw [hnew] at he
      rcases List.mem_cons.mp he with rfl | he
      · exact Or.inr hgave
      · exact Or.inl he
  · rw [← hplay] at hsame
    refine h.of_leave (hsame ▸ h.sound) (by rw [hsame]) ?_ ?_
    · intro w hw
      exact hsame ▸ hw
    · intro e he
      exact Or.inl (hsame ▸ he)

/-- Whoever waits after a caller asked, waits for a round trip for its own request. -/
theorem Traced.waiting_asked (h : t.Traced name moves) {method : String} {params : List Json}
    {patience : Patience}
    (htrips : ((t.play name (moves ++ [.call method params patience])).dispatcher name).trips =
      (((t.play name moves).dispatcher name).call (t.play name moves).callers method
        params).1.trips)
    {w : Waiting} (hw : w ∈ (((t.play name moves).dispatcher name).call
      (t.play name moves).callers method params).1.waiting) :
    ∃ method' params' trip,
      t.Shares name (moves ++ [.call method params patience]) w.caller method' params' trip ∧
      trip ∈ ((t.play name (moves ++ [.call method params patience])).dispatcher name).trips ∧
      w.pending = ⟨trip.slot⟩ ∧ trip.method = method' ∧
      List.Forall₂ Json.Same trip.params params' := by
  rcases h.sound.mem_waiting_call hw with hw | ⟨hcaller, trip, htrip, hpending, hkey, hstarted⟩
  · obtain ⟨method', params', trip, hshares, htrip, hrest⟩ := h.waiting w hw
    refine ⟨method', params', trip, hshares.more _, ?_, hrest⟩
    rw [htrips]
    exact h.sound.mem_trips_call _ _ _ htrip
  · rw [← htrips] at htrip
    exact ⟨method, params, trip, ⟨moves, patience, [], rfl, hcaller, hstarted, htrip⟩, htrip,
      hpending, same_request hkey⟩

theorem Traced.call (h : t.Traced name moves) (method : String) (params : List Json)
    (patience : Patience) : t.Traced name (moves ++ [.call method params patience]) := by
  have hsound := h.sound.step (.call (t.play name moves).callers method params)
  have hcases := call_cases (t.play name moves) name method params patience
  rw [← play_snoc] at hcases
  rcases hcases with ⟨hd, hended⟩ | ⟨limit, rfl, hd, hended⟩ | ⟨rfl, hd, hended⟩
  · refine ⟨hd ▸ hsound, ?_, ?_⟩
    · intro w hw
      rw [hd] at hw
      exact h.waiting_asked (by rw [hd]) hw
    · intro e he
      rw [hended] at he
      exact h.ended_more _ he
  · refine ⟨hd ▸ hsound.leave _, ?_, ?_⟩
    · intro w hw
      rw [hd] at hw
      exact h.waiting_asked (by rw [hd]; rfl) (List.mem_of_mem_filter hw)
    · intro e he
      rw [hended] at he
      rcases List.mem_cons.mp he with rfl | he
      · exact Or.inl (.expiredAtOnce rfl rfl)
      · exact h.ended_more _ he
  · apply h.of_leave (hd ▸ h.sound) (by rw [hd]) (fun w hw => hd ▸ hw)
    intro e he
    rw [hended] at he
    rcases List.mem_cons.mp he with rfl | he
    · exact Or.inr (.cancelledAtOnce rfl rfl)
    · exact Or.inl he

theorem Traced.reply (h : t.Traced name moves) (slot : Nat) (ending : TripEnd) :
    t.Traced name (moves ++ [.reply slot ending]) := by
  have hcases := reply_cases (t.play name moves) name h.sound slot ending
  rw [← play_snoc] at hcases
  rcases hcases with ⟨-, hd, hended⟩ | ⟨trip, htrip, rfl, hd, hended⟩
  · exact h.of_leave (hd ▸ h.sound) (by rw [hd]) (fun w hw => hd ▸ hw)
      fun e he => Or.inl (hended ▸ he)
  · refine ⟨hd ▸ h.sound.ended htrip _, ?_, ?_⟩
    · intro w hw
      rw [hd] at hw ⊢
      obtain ⟨hw, hother⟩ := List.mem_filter.mp hw
      obtain ⟨method, params, u, hshares, hu, hpending, hrest⟩ := h.waiting w hw
      refine ⟨method, params, u, hshares.more _, List.mem_filter.mpr ⟨hu, ?_⟩, hpending, hrest⟩
      rw [decide_eq_true_eq] at hother ⊢
      intro hslot
      exact hother (by rw [hpending, hslot])
    · intro e he
      rw [hended] at he
      rcases List.mem_append.mp he with he | he
      · -- it waited for the slot, so the round trip it waited for is this one
        rw [List.mem_reverse, List.mem_map] at he
        obtain ⟨caller, hcaller, rfl⟩ := he
        obtain ⟨w, hw, rfl⟩ := List.mem_map.mp hcaller
        obtain ⟨hw, hslot⟩ := List.mem_filter.mp hw
        obtain ⟨method, params, u, hshares, hu, hpending, hrest⟩ := h.waiting w hw
        rw [decide_eq_true_eq, hpending, Pending.mk.injEq] at hslot
        obtain rfl := h.sound.eq_of_slot_eq hu htrip hslot
        exact Or.inr ⟨method, params, u, ending, rfl, moves, [], rfl, hshares, hu, hrest⟩
      · exact h.ended_more _ he

/-- **Every move keeps everyone traced.** Who was traced to a round trip keeps it, and who comes is
traced to the round trip that it starts or finds. -/
theorem Traced.move (h : t.Traced name moves) (m : Move) : t.Traced name (moves ++ [m]) := by
  have hlast : m ∈ moves ++ [m] := List.mem_append_right _ (List.mem_singleton_self m)
  cases m with
  | call method params patience => exact h.call method params patience
  | cancel caller => exact h.dismiss rfl (.cancelled hlast)
  | expire caller limit => exact h.dismiss rfl (.expired hlast)
  | drop caller =>
    have hd : (t.play name (moves ++ [.drop caller])).dispatcher name =
        ((t.play name moves).dispatcher name).leave caller := by
      rw [play_snoc]
      exact dispatcher_happen_self _ name _
    have hended : (t.play name (moves ++ [.drop caller])).ended = (t.play name moves).ended := by
      rw [play_snoc]
      exact ended_happen _ name _
    exact h.of_leave (hd ▸ h.sound.leave caller) (by rw [hd]; rfl)
      (fun w hw => List.mem_of_mem_filter (hd ▸ hw)) fun e he => Or.inl (hended ▸ he)
  | reply slot ending => exact h.reply slot ending

end Step

/-- **In every run everyone who waits or ended can be traced.** The transport is any and so is the
order of the moves, also where it makes no sense. -/
theorem traced_play (transport : Transport σ) (memory : σ) (name : String)
    (moves : List Move) : (start transport memory).Traced name moves := by
  induction moves using List.reverseRecOn with
  | nil => exact traced_nil transport memory name
  | append_singleton moves m ih => exact ih.move m

theorem mem_ended_of_ending? {t : Timeline σ} {caller : CallerId} {ending : Ending}
    (h : t.ending? caller = some ending) :
    ∃ e ∈ t.ended, e.caller = caller ∧ e.ending = ending := by
  unfold ending? at h
  obtain ⟨e, hfind, rfl⟩ := Option.map_eq_some_iff.mp h
  have hcaller := List.find?_some hfind
  exact ⟨e, List.mem_of_find?_eq_some hfind, of_decide_eq_true hcaller, rfl⟩

/-! ## One end for each round trip -/

/-- A round trip that has ended is never outstanding again. Its key may be, and is when the next
caller comes; it is the slot that does not come back. -/
theorem Traced.not_outstanding_again {t : Timeline σ} {name : String} {moves : List Move}
    {trip : Trip} (h : t.Traced name moves)
    (htrip : trip ∈ ((t.play name moves).dispatcher name).trips) (ending : TripEnd)
    (more : List Move) : trip ∉
      ((t.play name (moves ++ .reply trip.slot ending :: more)).dispatcher name).trips := by
  have hsound := (h.move (.reply trip.slot ending)).sound
  have hcases := reply_cases (t.play name moves) name h.sound trip.slot ending
  rw [← play_snoc] at hcases
  rw [← List.singleton_append, ← List.append_assoc, play_append]
  obtain ⟨events, hevents⟩ :=
    dispatcher_play (t.play name (moves ++ [.reply trip.slot ending])) name more
  rw [hevents]
  intro hagain
  rcases hcases with ⟨hnone, -, -⟩ | ⟨u, hu, hslot, hd, -⟩
  · exact hnone trip htrip rfl
  · obtain rfl := h.sound.eq_of_slot_eq hu htrip hslot
    rcases hsound.fresh_run events u hagain with hmem | hsize
    · rw [hd] at hmem
      have hother := (List.mem_filter.mp hmem).2
      exact of_decide_eq_true hother rfl
    · -- the slot is below the size already before the reply
      have hlt := h.sound.slot_lt hu
      have hsame : ((t.play name (moves ++ [.reply u.slot ending])).dispatcher
          name).coalescer.slots.size =
          ((t.play name moves).dispatcher name).coalescer.slots.size := by
        rw [hd]
        exact Array.size_setIfInBounds
      omega

/-- **A round trip ends in one way for all who are answered by it.** The two may have come at
different times and may have stopped waiting at different times; neither has anything to do with how
the round trip ended. -/
theorem Answered.ending_eq {t : Timeline σ} {name : String} {moves : List Move} {trip : Trip}
    (htraced : ∀ moves, t.Traced name moves) {caller other : CallerId}
    {method method' : String} {params params' : List Json} {ending ending' : TripEnd}
    (h : t.Answered name moves caller method params trip ending)
    (h' : t.Answered name moves other method' params' trip ending') : ending' = ending := by
  obtain ⟨earlier, later, hmoves, -, htrip, -⟩ := h
  obtain ⟨earlier', later', hmoves', -, htrip', -⟩ := h'
  rw [hmoves] at hmoves'
  -- if one of the replies came first, the round trip would be outstanding after it
  rcases List.append_eq_append_iff.mp hmoves' with ⟨mid, rfl, heq⟩ | ⟨mid, rfl, heq⟩
  · cases mid with
    | nil =>
      simp only [List.nil_append, List.cons.injEq, Move.reply.injEq, true_and] at heq
      exact heq.1.symm
    | cons m mid =>
      obtain ⟨rfl, -⟩ := List.cons.inj heq
      exact absurd htrip' ((htraced earlier).not_outstanding_again htrip ending mid)
  · cases mid with
    | nil =>
      simp only [List.nil_append, List.cons.injEq, Move.reply.injEq, true_and] at heq
      exact heq.1
    | cons m mid =>
      obtain ⟨rfl, -⟩ := List.cons.inj heq
      exact absurd htrip ((htraced earlier').not_outstanding_again htrip' ending' mid)

/-- **The right answer, never a stale one.** In every run of a dispatcher, a caller that has
ended gave up in its own way, or it was answered: there is a round trip that was outstanding
when the caller came, or that it started, and that stayed outstanding until it ended; its
request was the caller's own, up to the order of members. It ends in the same way for all who
are answered by it, and each gets what it makes of that for itself. -/
theorem right_answer (transport : Transport σ) (memory : σ) (name : String)
    (moves : List Move) (caller : CallerId) (ending : Ending)
    (hended : ((start transport memory).play name moves).ending? caller = some ending) :
    (start transport memory).GaveUp name moves caller ending ∨
    ∃ method params trip tripEnd,
      (start transport memory).Answered name moves caller method params trip tripEnd ∧
      (∀ other method' params' tripEnd',
        (start transport memory).Answered name moves other method' params' trip tripEnd' →
          tripEnd' = tripEnd) ∧
      (∀ (α : Type) (shape : Shape α),
        (Operation.ask method params shape).result?
          (((start transport memory).play name moves).ending? caller) =
          some (match tripEnd.outcome with
            | .ok value => (shape.decode value).mapError (.decode method)
            | .error error => .error (.trip error))) ∧
      (Operation.tell method params).result?
        (((start transport memory).play name moves).ending? caller) =
        some (match tripEnd.outcome with
          | .ok _ => .ok ()
          | .error error => .error (.trip error)) := by
  have htraced := traced_play transport memory name
  obtain ⟨e, he, rfl, rfl⟩ := mem_ended_of_ending? hended
  rcases (htraced moves).ended e he with hgave | ⟨method, params, trip, tripEnd, heq, hanswered⟩
  · exact Or.inl hgave
  · refine Or.inr ⟨method, params, trip, tripEnd, hanswered, ?_,
      ?_, ?_⟩
    · intro _ _ _ _ hother
      exact hanswered.ending_eq htraced hother
    · intro α shape
      rw [hended, heq]
      rfl
    · rw [hended, heq]
      rfl

/-- Two calls that differ in the order of members share a round trip that dies. -/
def sharedDeath : List Move :=
  [.call "send" [.object [("to", .bool true), ("fee", .null)]] .unlimited,
    .call "send" [.object [("fee", .null), ("to", .bool true)]] .unlimited, .reply 0 .dies]

/-- The second caller of `sharedDeath` is answered: it did not give up. -/
theorem right_answer_sharedDeath :
    ((start Transport.scripted []).play "node" sharedDeath).ending? 1 =
      some (.outcome (.error .aborted)) ∧
    ∃ method params trip tripEnd,
      (start Transport.scripted []).Answered "node" sharedDeath 1 method params trip tripEnd := by
  have hended : ((start Transport.scripted []).play "node" sharedDeath).ending? 1 =
      some (.outcome (.error .aborted)) := rfl
  refine ⟨hended, ?_⟩
  rcases right_answer Transport.scripted [] "node" sharedDeath 1 _ hended with
    hgave | ⟨method, params, trip, tripEnd, hanswered, -⟩
  · cases hgave
  · exact ⟨method, params, trip, tripEnd, hanswered⟩

end NodeRpc.Timeline
