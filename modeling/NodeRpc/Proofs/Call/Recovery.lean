import NodeRpc.Proofs.Call.Anew

/-!
# Nobody is stranded

A caller that came and has not ended waits for a round trip of its key that is outstanding, and ends
when that round trip does, however it ends. So with no round trip outstanding nobody waits, and what
follows is what follows with a new dispatcher (`no_stranded_caller`).

One would like to say that every caller ends. It cannot be said of a run, as a transport may take
for ever and a caller may be ready to wait for ever; what can be said is what stands between a
caller and its end. It has ended, or it was dropped, or there is a round trip for its own key,
outstanding now, whose end will be its end too. That the round trip may die without an outcome, in a
transport that panics, is one of the ways to end and needs no clause of its own.

The second half is about the dispatcher and not about its callers. Whatever happened before, once
nothing is outstanding there is nothing left of it: nobody waits, the table is empty, and then for
any moves at all the roles, the requests, the log and the endings are those of new dispatchers over
the transport as it is then (`AsNew`). The transport is not new, as its memory is not the
dispatcher's to reset.

For that half two timelines are compared move by move: one goes on from where it is, the other
begins anew (`GoesOn`). The moves of the other leave out what is about callers and slots from
before, and they have to. A reply for a round trip that has ended may still arrive, and `comesLater`
has one.
-/

namespace NodeRpc

namespace Timeline

variable {σ : Type}

/-! ## What a move leaves of those who wait

A move may end a caller, let one leave, or bring one. `Accounts` says for each caller which of these
it was, so that nobody can go missing between two moves. -/

/-- Every caller is accounted for when a move takes one timeline to another: who waited still
waits, or has ended, or was dropped, and nobody else does but one who came. -/
structure Accounts (name : String) (t : Timeline σ) (m : Move) (t' : Timeline σ) : Prop where
  ended_subset : t.ended ⊆ t'.ended
  waited : ∀ w ∈ (t.dispatcher name).waiting, w ∈ (t'.dispatcher name).waiting ∨
    (∃ e ∈ t'.ended, e.caller = w.caller) ∨ m = .drop w.caller
  waits : ∀ w ∈ (t'.dispatcher name).waiting, w ∈ (t.dispatcher name).waiting ∨
    m.isCall = true ∧ w.caller = t.callers
  ended : ∀ e ∈ t'.ended, e ∈ t.ended ∨ (∃ w ∈ (t.dispatcher name).waiting, w.caller = e.caller) ∨
    m.isCall = true ∧ e.caller = t.callers

section Accounts

variable {t t' : Timeline σ} {name : String} {m : Move}

/-- Who waits no more has ended or was dropped. -/
theorem Accounts.of_filter {p : Waiting → Bool} {new : List Ended}
    (hwaiting : (t'.dispatcher name).waiting = (t.dispatcher name).waiting.filter p)
    (hended : t'.ended = new ++ t.ended)
    (hleft : ∀ w ∈ (t.dispatcher name).waiting, p w = false →
      (∃ e ∈ new, e.caller = w.caller) ∨ m = .drop w.caller)
    (hnew : ∀ e ∈ new, ∃ w ∈ (t.dispatcher name).waiting, w.caller = e.caller) :
    Accounts name t m t' := by
  refine ⟨?_, ?_, ?_, ?_⟩
  · rw [hended]
    exact List.subset_append_right new t.ended
  · intro w hw
    cases hp : p w with
    | true =>
      rw [hwaiting]
      exact Or.inl (List.mem_filter.mpr ⟨hw, hp⟩)
    | false =>
      rcases hleft w hw hp with ⟨e, he, hcaller⟩ | hdrop
      · rw [hended]
        exact Or.inr (Or.inl ⟨e, List.mem_append_left _ he, hcaller⟩)
      · exact Or.inr (Or.inr hdrop)
  · intro w hw
    rw [hwaiting] at hw
    exact Or.inl (List.mem_of_mem_filter hw)
  · intro e he
    rw [hended] at he
    rcases List.mem_append.mp he with he | he
    · exact Or.inr (Or.inl (hnew e he))
    · exact Or.inl he

theorem accounts_self (name : String) (t : Timeline σ) (m : Move) : Accounts name t m t :=
  ⟨fun _ he => he, fun _ hw => Or.inl hw, fun _ hw => Or.inl hw, fun _ he => Or.inl he⟩

theorem accounts_dismiss (name : String) (t : Timeline σ) (m : Move) (caller : CallerId)
    (ending : Ending) : Accounts name t m (t.dismiss name caller ending) := by
  cases hwaiting : t.isWaiting name caller with
  | false =>
    unfold Timeline.dismiss
    rw [hwaiting]
    exact accounts_self name t m
  | true =>
    obtain ⟨w, hw, hcaller⟩ := List.any_eq_true.mp hwaiting
    rcases dismiss_cases t name caller ending with ⟨hleft, hended⟩ | hsame
    · refine .of_filter (by rw [hleft]; rfl) (hended.trans List.singleton_append.symm) ?_ ?_
      · intro other _ hother
        have hsame : other.caller = caller := by simpa using hother
        exact Or.inl ⟨_, List.mem_singleton_self _, hsame.symm⟩
      · intro e he
        rw [List.mem_singleton.mp he]
        exact ⟨w, hw, of_decide_eq_true hcaller⟩
    · rw [hsame]
      exact accounts_self name t m

section Sound

variable (hsound : (t.dispatcher name).Sound)

include hsound

theorem accounts_call (method : String) (params : List Json) (patience : Patience) :
    Accounts name t (.call method params patience)
      (t.move name (.call method params patience)) := by
  have hwaited : ∀ w ∈ (t.dispatcher name).waiting,
      w ∈ ((t.dispatcher name).call t.callers method params).1.waiting := by
    intro w hw
    rcases hsound.call_cases t.callers method params with ⟨_, -, -, heq⟩ | ⟨-, heq⟩
    · rw [heq]
      exact List.mem_append_left _ hw
    · rw [heq]
      exact List.mem_append_left _ hw
  have hwaits : ∀ w ∈ ((t.dispatcher name).call t.callers method params).1.waiting,
      w ∈ (t.dispatcher name).waiting ∨ true = true ∧ w.caller = t.callers := by
    intro w hw
    exact (hsound.mem_waiting_call hw).imp_right fun hnew => ⟨rfl, hnew.1⟩
  have hnew : ∀ e ending, e ∈ Ended.mk t.callers t.now ending :: t.ended → e ∈ t.ended ∨
      (∃ w ∈ (t.dispatcher name).waiting, w.caller = e.caller) ∨
      true = true ∧ e.caller = t.callers := by
    intro e ending he
    rcases List.mem_cons.mp he with rfl | he
    · exact Or.inr (Or.inr ⟨rfl, rfl⟩)
    · exact Or.inl he
  rcases call_cases t name method params patience with ⟨hd, he⟩ | ⟨limit, -, hd, he⟩ |
    ⟨-, hd, he⟩
  · refine ⟨by rw [he]; exact List.Subset.refl _, ?_, by rw [hd]; exact hwaits, ?_⟩
    · rw [hd]
      exact fun w hw => Or.inl (hwaited w hw)
    · rw [he]
      exact fun e he => Or.inl he
  · refine ⟨by rw [he]; exact List.subset_cons_self _ _, ?_, ?_, by rw [he]; exact (hnew · _)⟩
    · -- it is not assumed here that the number of the one who came is new
      intro w hw
      by_cases hcaller : w.caller = t.callers
      · rw [he]
        exact Or.inr (Or.inl ⟨_, List.mem_cons_self, hcaller.symm⟩)
      · rw [hd]
        exact Or.inl (List.mem_filter.mpr ⟨hwaited w hw, decide_eq_true hcaller⟩)
    · rw [hd]
      exact fun w hw => hwaits w (List.mem_of_mem_filter hw)
  · refine ⟨by rw [he]; exact List.subset_cons_self _ _, ?_, ?_, by rw [he]; exact (hnew · _)⟩
    · rw [hd]
      exact fun w hw => Or.inl hw
    · rw [hd]
      exact fun w hw => Or.inl hw

theorem accounts_reply (slot : Nat) (ending : TripEnd) :
    Accounts name t (.reply slot ending) (t.move name (.reply slot ending)) := by
  rcases reply_cases t name hsound slot ending with ⟨-, hd, he⟩ | ⟨trip, -, -, hd, he⟩
  · refine .of_filter (p := fun _ => true) (by rw [hd, List.filter_true])
      (he.trans (List.nil_append _).symm) ?_ ?_
    · intro w _ hfalse
      cases hfalse
    · intro e he
      cases he
  · refine .of_filter (by rw [hd]; rfl) he ?_ ?_
    · intro w hw hshared
      have hmem : w.caller ∈ (t.dispatcher name).sharers trip := by
        refine List.mem_map_of_mem (List.mem_filter.mpr ⟨hw, ?_⟩)
        simpa using hshared
      exact Or.inl ⟨_, List.mem_reverse.mpr (List.mem_map_of_mem hmem), rfl⟩
    · intro e he
      obtain ⟨caller, hcaller, rfl⟩ := List.mem_map.mp (List.mem_reverse.mp he)
      obtain ⟨w, hw, rfl⟩ := List.mem_map.mp hcaller
      exact ⟨w, List.mem_of_mem_filter hw, rfl⟩

/-- **Every move accounts for every caller.** Whoever waited before it still waits, for the same
round trip, or has ended or was dropped. Nobody waits or ends by it who did not wait before and has
not just come. -/
theorem accounts_move (m : Move) : Accounts name t m (t.move name m) := by
  cases m with
  | call method params patience => exact accounts_call hsound method params patience
  | cancel caller => exact accounts_dismiss name t _ caller .cancelled
  | expire caller limit => exact accounts_dismiss name t _ caller (.timedOut limit)
  | drop caller =>
    have hd : (t.move name (.drop caller)).dispatcher name = (t.dispatcher name).leave caller :=
      dispatcher_happen_self t name _
    refine .of_filter (by rw [hd]; rfl) (ended_happen t name _) ?_ ?_
    · intro w _ hleft
      have hcaller : w.caller = caller := by simpa using hleft
      exact Or.inr (by rw [hcaller])
    · intro e he
      cases he
  | reply slot ending => exact accounts_reply hsound slot ending

end Sound
end Accounts

/-! ## Nobody is stranded

The accounts are added up along a run, from the move with which a caller comes. -/

/-- A caller waits for a round trip of a key, which is outstanding. It is this that keeps a waiting
caller from being stranded. -/
def WaitsFor (t : Timeline σ) (name : String) (caller : CallerId) (key : RequestKey) : Prop :=
  ∃ trip ∈ (t.dispatcher name).trips, trip.key = key ∧
    ⟨caller, ⟨trip.slot⟩⟩ ∈ (t.dispatcher name).waiting

/-- How a caller of a key can stand: it has ended, it was dropped by one of the later moves, or it
waits for a round trip of the key that is outstanding. There is no fourth way. -/
def Accounted (t : Timeline σ) (name : String) (caller : CallerId) (key : RequestKey)
    (later : List Move) : Prop :=
  (t.ending? caller).isSome ∨ .drop caller ∈ later ∨ t.WaitsFor name caller key

section Stranded

variable {t : Timeline σ} {name : String} {caller : CallerId} {key : RequestKey}

theorem isSome_ending?_iff : (t.ending? caller).isSome ↔ ∃ e ∈ t.ended, e.caller = caller := by
  unfold ending?
  rw [Option.isSome_map, List.find?_isSome]
  simp

variable (hsound : (t.dispatcher name).Sound)

include hsound

/-- Whoever comes ends at once or waits. -/
theorem accounted_call (method : String) (params : List Json) (patience : Patience) :
    (t.move name (.call method params patience)).Accounted name t.callers
      (.ofCall method params) [] := by
  have hended : ∀ {t' : Timeline σ} {e : Ended}, t'.ended = e :: t.ended →
      e.caller = t.callers → (t'.ending? t.callers).isSome := by
    intro t' e he hcaller
    rw [isSome_ending?_iff, he]
    exact ⟨e, List.mem_cons_self, hcaller⟩
  rcases call_cases t name method params patience with ⟨hd, -⟩ | ⟨limit, -, -, he⟩ | ⟨-, -, he⟩
  · refine Or.inr (Or.inr ?_)
    unfold WaitsFor
    rw [hd]
    rcases hsound.call_cases t.callers method params with ⟨trip, htrip, hkey, heq⟩ | ⟨-, heq⟩
    · rw [heq]
      exact ⟨trip, htrip, hkey, List.mem_append_right _ (List.mem_singleton_self _)⟩
    · rw [heq]
      exact ⟨_, List.mem_append_right _ (List.mem_singleton_self _), rfl,
        List.mem_append_right _ (List.mem_singleton_self _)⟩
  · exact Or.inl (hended he rfl)
  · exact Or.inl (hended he rfl)

/-- Whoever still waits after a move still waits for the same round trip. -/
theorem WaitsFor.of_mem (m : Move) {trip : Trip} (htrip : trip ∈ (t.dispatcher name).trips)
    (hkey : trip.key = key)
    (hw : ⟨caller, ⟨trip.slot⟩⟩ ∈ ((t.move name m).dispatcher name).waiting) :
    (t.move name m).WaitsFor name caller key := by
  obtain ⟨events, hevents⟩ := dispatcher_move t name m
  have hmoved := hsound.run events
  rw [← hevents] at hmoved
  obtain ⟨u, hu, hslot⟩ := hmoved.waits _ hw
  obtain hslot : trip.slot = u.slot := Pending.mk.inj hslot
  refine ⟨u, hu, ?_, hslot ▸ hw⟩
  rcases hsound.fresh_run events u (hevents ▸ hu) with hold | hnew
  · rw [hsound.eq_of_slot_eq hold htrip hslot.symm, hkey]
  · -- a slot that is in use is not a new one
    have hlt := hsound.slot_lt htrip
    omega

theorem Accounted.move {later : List Move} (h : t.Accounted name caller key later) (m : Move) :
    (t.move name m).Accounted name caller key (later ++ [m]) := by
  have haccounts := accounts_move hsound m
  rcases h with hended | hdropped | ⟨trip, htrip, hkey, hw⟩
  · obtain ⟨e, he, hcaller⟩ := isSome_ending?_iff.mp hended
    exact Or.inl (isSome_ending?_iff.mpr ⟨e, haccounts.ended_subset he, hcaller⟩)
  · exact Or.inr (Or.inl (List.mem_append_left _ hdropped))
  · rcases haccounts.waited _ hw with hw | hended | rfl
    · exact Or.inr (Or.inr (WaitsFor.of_mem hsound m htrip hkey hw))
    · exact Or.inl (isSome_ending?_iff.mpr hended)
    · exact Or.inr (Or.inl (List.mem_append_right _ (List.mem_singleton_self _)))

/-- **Whoever shares a round trip ends when it does**, in whatever way that is. That it died is a
way of ending: the callers are told that their call was abandoned, and none of them is left
behind. -/
theorem ending?_reply {trip : Trip} (htrip : trip ∈ (t.dispatcher name).trips)
    (hw : ⟨caller, ⟨trip.slot⟩⟩ ∈ (t.dispatcher name).waiting) (ending : TripEnd) :
    (t.move name (.reply trip.slot ending)).ending? caller = some (.outcome ending.outcome) := by
  rcases reply_cases t name hsound trip.slot ending with ⟨hnone, -, -⟩ | ⟨u, hu, hslot, -, he⟩
  · exact absurd rfl (hnone trip htrip)
  · obtain rfl := hsound.eq_of_slot_eq hu htrip hslot
    have hmem : caller ∈ (t.dispatcher name).sharers u := by
      refine List.mem_map.mpr ⟨_, List.mem_filter.mpr ⟨hw, ?_⟩, rfl⟩
      simp
    -- whoever ends with the round trip ends in the same way, so it does not matter who is found
    unfold ending?
    rw [he, List.find?_append]
    cases hfind : (((t.dispatcher name).sharers u).map
        (⟨·, t.now, .outcome ending.outcome⟩ : CallerId → Ended)).reverse.find?
        (·.caller = caller) with
    | none =>
      have hnot := List.find?_eq_none.mp hfind ⟨caller, t.now, .outcome ending.outcome⟩
        (List.mem_reverse.mpr (List.mem_map_of_mem hmem))
      simp at hnot
    | some e =>
      have hfound := List.mem_of_find?_eq_some hfind
      obtain ⟨other, -, rfl⟩ := List.mem_map.mp (List.mem_reverse.mp hfound)
      rfl

end Stranded

/-- **In every run every caller is accounted for.** The caller is any one of the run, with any moves
before it came and any after; no move has to be of a certain kind, so there is no behaviour of
others that could leave it waiting for nothing. -/
theorem accounted_play (transport : Transport σ) (memory : σ) (name : String)
    (before : List Move) (method : String) (params : List Json) (patience : Patience)
    (later : List Move) :
    ((start transport memory).play name (before ++ .call method params patience :: later)).Accounted
      name ((start transport memory).play name before).callers (.ofCall method params) later := by
  induction later using List.reverseRecOn with
  | nil =>
    rw [play_snoc]
    exact accounted_call (sound_play transport memory name before) method params patience
  | append_singleton later m ih =>
    rw [← List.cons_append, ← List.append_assoc, play_snoc]
    exact ih.move (sound_play transport memory name _) m

/-! ## Nothing is left over

That callers are numbered in the order in which they come is needed here, since a caller of the new
run must not be taken for one of the old. -/

/-- Whoever waits or has ended came before. So the next caller has a number that is not in use. -/
structure Known (t : Timeline σ) (name : String) : Prop where
  waiting : ∀ w ∈ (t.dispatcher name).waiting, w.caller < t.callers
  ended : ∀ e ∈ t.ended, e.caller < t.callers

theorem Known.move {t : Timeline σ} {name : String} (h : t.Known name)
    (hsound : (t.dispatcher name).Sound) (m : Move) : (t.move name m).Known name := by
  have haccounts := accounts_move hsound m
  have hcallers := callers_move t name m
  have hcame : ∀ caller, m.isCall = true ∧ caller = t.callers →
      caller < (t.move name m).callers := by
    rintro caller ⟨hcall, rfl⟩
    rw [hcallers, hcall]
    exact Nat.lt_succ_self _
  have hold : ∀ {caller}, caller < t.callers → caller < (t.move name m).callers := by
    intro caller hlt
    exact Nat.lt_of_lt_of_le hlt (hcallers ▸ Nat.le_add_right _ _)
  constructor
  · intro w hw
    rcases haccounts.waits w hw with hw | hcall
    · exact hold (h.waiting w hw)
    · exact hcame _ hcall
  · intro e he
    rcases haccounts.ended e he with he | ⟨w, hw, hcaller⟩ | hcall
    · exact hold (h.ended e he)
    · exact hcaller ▸ hold (h.waiting w hw)
    · exact hcame _ hcall

theorem known_play (transport : Transport σ) (memory : σ) (name : String) (moves : List Move) :
    ((start transport memory).play name moves).Known name := by
  induction moves using List.reverseRecOn with
  | nil =>
    constructor
    · intro w hw
      cases hw
    · intro e he
      cases he
  | append_singleton moves m ih =>
    rw [play_snoc]
    exact ih.move (sound_play transport memory name moves) m

/-- What follows `t` looks like what follows from new dispatchers. `role` is about any key, also one
that no caller asked for yet, so that it covers what the next caller would find. -/
structure AsNew (t : Timeline σ) (name : String) (u v : Timeline σ) : Prop where
  role : ∀ key, ((u.dispatcher name).coalescer.acquire key).1.publisher?.isSome =
    ((v.dispatcher name).coalescer.acquire key).1.publisher?.isSome
  inFlight : (u.dispatcher name).inFlight = (v.dispatcher name).inFlight
  requests : u.requests = v.requests ++ t.requests
  log : u.log = v.log ++ t.log
  /-- Each caller ends in the same way and at the same time, and no other ending is added. -/
  ended : u.ended = v.ended.map (Ended.ahead (t.lead name)) ++ t.ended
  ending : ∀ caller, u.ending? (caller + t.callers) = v.ending? caller

theorem GoesOn.asNew {t u v : Timeline σ} {name : String} (h : GoesOn t name u v)
    (hknown : ∀ e ∈ t.ended, e.caller < t.callers) : AsNew t name u v := by
  refine ⟨h.dispatcher.role_eq, h.dispatcher.inFlight_eq, h.requests, h.log, h.ended, ?_⟩
  intro caller
  have hnone : t.ended.find? (·.caller = caller + t.callers) = none := by
    rw [List.find?_eq_none]
    intro e he
    have hlt := Nat.lt_of_lt_of_le (hknown e he) (Nat.le_add_left _ caller)
    simpa using Nat.ne_of_lt hlt
  have hsame : ((fun e : Ended => decide (e.caller = caller + t.callers)) ∘
      Ended.ahead (t.lead name)) = fun e : Ended => decide (e.caller = caller) := by
    funext e
    simp [Ended.ahead, lead]
  unfold ending?
  rw [h.ended, List.find?_append, hnone, Option.or_none, List.find?_map, hsame, Option.map_map]
  rfl

/-- **No caller is stranded, and the dispatcher recovers fully.** In every run:

* a caller that came has ended, or it was dropped, or it waits for a round trip of its key that
  is outstanding;
* whoever waits for a round trip has its outcome when it ends, however it ends.

If no round trip is outstanding, every caller that was not dropped has ended, nobody waits, and
the table is empty. Whatever follows is as with new dispatchers over the transport as it is then:
the roles, the requests and how callers end. -/
theorem no_stranded_caller (transport : Transport σ) (memory : σ) (name : String)
    (moves : List Move) {t : Timeline σ} (ht : t = (start transport memory).play name moves) :
    (∀ before method params patience later,
      moves = before ++ .call method params patience :: later →
        t.Accounted name ((start transport memory).play name before).callers
          (.ofCall method params) later) ∧
    (∀ caller, ∀ trip ∈ (t.dispatcher name).trips,
      ⟨caller, ⟨trip.slot⟩⟩ ∈ (t.dispatcher name).waiting → ∀ tripEnd,
        (t.move name (.reply trip.slot tripEnd)).ending? caller =
          some (.outcome tripEnd.outcome)) ∧
    ((t.dispatcher name).trips = [] →
      (∀ before method params patience later,
        moves = before ++ .call method params patience :: later →
          (t.ending? ((start transport memory).play name before).callers).isSome ∨
            .drop ((start transport memory).play name before).callers ∈ later) ∧
      (t.dispatcher name).waiting = [] ∧ (t.dispatcher name).coalescer.table = [] ∧
      ∀ more, AsNew t name (t.play name more)
        (t.anew.play name (more.filterMap (Move.since (t.lead name))))) := by
  subst ht
  have hsound := sound_play transport memory name moves
  refine ⟨?_, ?_, ?_⟩
  · rintro before method params patience later rfl
    exact accounted_play transport memory name before method params patience later
  · intro caller trip htrip hw tripEnd
    exact ending?_reply hsound htrip hw tripEnd
  · intro hnone
    refine ⟨?_, ?_, ?_, ?_⟩
    · rintro before method params patience later rfl
      -- who has neither ended nor been dropped waits for a round trip, and there is none
      rcases accounted_play transport memory name before method params patience later with
        hended | hdropped | ⟨trip, htrip, -⟩
      · exact Or.inl hended
      · exact Or.inr hdropped
      · rw [hnone] at htrip
        cases htrip
    · refine List.eq_nil_iff_forall_not_mem.mpr ?_
      intro w hw
      obtain ⟨trip, htrip, -⟩ := hsound.waits w hw
      rw [hnone] at htrip
      cases htrip
    · rw [hsound.coalescer.table_eq, hsound.publishers_eq, hnone]
      rfl
    · intro more
      have hgoes := (goesOn_anew hsound hnone).play more
      exact hgoes.asNew (known_play transport memory name moves).ended

/-- The round trip of two callers dies, after one of them was cancelled. -/
def diedAfterCancel : List Move :=
  [.call "getinfo" [] .unlimited, .call "getinfo" [] .unlimited, .cancel 0, .reply 0 .dies]

/-- Someone comes and is answered, while the old caller and the old round trip are heard of
again. -/
def comesLater : List Move :=
  [.cancel 0, .call "getinfo" [] .unlimited, .reply 0 (.answers (.ok .null)),
    .reply 1 (.answers (.ok (.bool true)))]

/-- The caller that comes after the death of a round trip is answered like a first one. -/
theorem no_stranded_caller_diedAfterCancel :
    (((start Transport.scripted []).play "node" diedAfterCancel).ending? 1).isSome = true ∧
    (((start Transport.scripted []).play "node" diedAfterCancel).play "node" comesLater).ending? 2 =
      some (.outcome (.ok (.bool true))) := by
  obtain ⟨-, -, hrecovered⟩ :=
    no_stranded_caller Transport.scripted [] "node" diedAfterCancel rfl
  obtain ⟨hended, -, -, hnew⟩ := hrecovered rfl
  refine ⟨?_, ((hnew comesLater).ending 0).trans rfl⟩
  exact (hended [.call "getinfo" [] .unlimited] "getinfo" [] .unlimited _ rfl).resolve_right
    (by simp [Timeline.play])

end Timeline
end NodeRpc
