import NodeRpc.Proofs.Call.Moves
import NodeRpc.Proofs.Call.Plans

/-!
# Giving up concerns nobody else

A caller that is cancelled, runs out of time or is dropped ends alone. To say so of one run would be
to say little: whether the others end as they *should* depends on what they should end with. So the
statement is about two runs. They differ in one caller's way of waiting, in any respect, and for
everybody else they are the same: the requests to the transport, the tables at every moment, the
log, and how and when every other caller ends (`cancellation_isolation`).

The other run may be one in which that caller waits as long as it takes. So it is covered that a
caller which owns a round trip and goes away leaves the round trip to those who share it; this is
the case where a design in which the owner does the work would fail, and it is the one in
`ownerDropped`.

The law is stated twice. For moves in any order the round trips end as they are told to. For plans
the transport answers, and the other run is not assumed to go on as the first: that it does is what
is proved.

A caller that is cancelled before it asks is not in that law, since a caller that asks may start a
round trip and one that does not ask cannot. It has a law of its own, which is stronger: all goes as
if it had not come. The only trace of it is that those who come after it are numbered one higher,
and `renumber` takes that out.
-/

namespace NodeRpc

/-! ## Views of everyone else

The two observers of the main result. One looks at everybody but the caller in question. The other
does so too, and numbers those behind it as they would be numbered without it. -/

namespace View

/-- Everyone but one caller. The others keep their numbers, so this is for two timelines on both of
which the caller has come. -/
def leaveOut (caller : CallerId) : View := fun i => if i = caller then none else some i

/-- Everyone but one caller, numbered as if it had not come. This is for a timeline on which it has,
seen from one on which it has not. -/
def closing (caller : CallerId) : View :=
  fun i => if i = caller then none else some (Plan.renumber caller i)

theorem leaveOut_self (caller : CallerId) : leaveOut caller caller = none := if_pos rfl

theorem leaveOut_ne {caller i : CallerId} (h : i ≠ caller) : leaveOut caller i = some i :=
  if_neg h

theorem closing_self (caller : CallerId) : closing caller caller = none := if_pos rfl

theorem closing_ne {caller i : CallerId} (h : i ≠ caller) :
    closing caller i = some (Plan.renumber caller i) := if_neg h

theorem faithful_leaveOut (caller : CallerId) : (leaveOut caller).Faithful := by
  intro i j k hi hj
  obtain ⟨-, hik⟩ := Option.ite_none_left_eq_some.mp hi
  obtain ⟨-, hjk⟩ := Option.ite_none_left_eq_some.mp hj
  exact Option.some.inj (hik.trans hjk.symm)

theorem faithful_closing (caller : CallerId) : (closing caller).Faithful := by
  intro i j k hi hj
  obtain ⟨hi, hik⟩ := Option.ite_none_left_eq_some.mp hi
  obtain ⟨hj, hjk⟩ := Option.ite_none_left_eq_some.mp hj
  exact Plan.renumber_inj hi hj (Option.some.inj (hik.trans hjk.symm))

theorem faithful_some : View.Faithful some :=
  fun _ _ _ hi hj => Option.some.inj (hi.trans hj.symm)

end View

open View

/-! ## Plans without a caller's decisions -/

namespace Plan

/-- What is left of a plan does what is seen of it by the others. -/
theorem shadows_overlooking (caller next : CallerId) (plan : Plan) :
    Shadows (leaveOut caller) (leaveOut caller) next next plan
      (plan.overlooking caller next) := by
  induction plan generalizing next with
  | nil => exact .nil
  | cons entry plan ih =>
    obtain ⟨time, deed⟩ := entry
    cases deed with
    | call dispatcher method params patience =>
      unfold overlooking
      by_cases hnext : next = caller
      · subst hnext
        rw [if_pos rfl]
        exact .unseen (leaveOut_self next) (leaveOut_self next)
          patience.asks_overlooked.symm (ih (next + 1))
      · rw [if_neg hnext]
        exact .seen (leaveOut_ne hnext) (leaveOut_ne hnext) (ih (next + 1))
    | drop dispatcher dropped =>
      unfold overlooking
      by_cases hdropped : dropped = caller
      · subst hdropped
        rw [if_pos rfl]
        exact .goes (leaveOut_self dropped) (ih next)
      · rw [if_neg hdropped]
        exact .dropped (leaveOut_ne hdropped) (leaveOut_ne hdropped) (ih next)

theorem patience?_of_lt {caller next : Nat} (h : caller < next) (plan : Plan) :
    plan.patience? caller next = none := by
  induction plan generalizing next with
  | nil => rfl
  | cons entry plan ih =>
    obtain ⟨time, deed⟩ := entry
    cases deed with
    | call dispatcher method params patience =>
      unfold patience?
      rw [if_neg (Nat.ne_of_gt h)]
      exact ih (Nat.lt_succ_of_lt h)
    | drop dispatcher dropped => exact ih h

/-- The plan without a caller does what is seen of it by the others, if the caller does not
ask. -/
theorem shadows_without {caller next : Nat} {plan : Plan}
    (h : ∀ patience, plan.patience? caller next = some patience → patience.asks = false)
    {next' : Nat} (hnext' : next' = if next ≤ caller then next else next - 1) :
    Shadows (closing caller) some next next' plan (plan.without caller next) := by
  induction plan generalizing next next' with
  | nil => exact .nil
  | cons entry plan ih =>
    obtain ⟨time, deed⟩ := entry
    cases deed with
    | call dispatcher method params patience =>
      unfold without
      by_cases hnext : next = caller
      · subst hnext
        rw [if_pos rfl]
        -- from here on the numbers of the two plans differ by one
        refine .idle (closing_self next) (h patience (if_pos rfl)) (ih ?_ ?_)
        · intro other hother
          rw [patience?_of_lt (Nat.lt_succ_self next)] at hother
          cases hother
        · rw [hnext', if_pos (Nat.le_refl next), if_neg (by omega)]
          rfl
      · have hrest : patience? caller next
            ((time, .call dispatcher method params patience) :: plan) =
              patience? caller (next + 1) plan := if_neg hnext
        have hnumber : some next' = some (renumber caller next) := by
          rw [hnext']
          congr 1
          unfold renumber
          split
          · rw [if_pos (by omega)]
          · rw [if_neg (by omega)]
        rw [if_neg hnext]
        refine .seen (closing_ne hnext) hnumber (ih (hrest ▸ h) ?_)
        rw [hnext']
        split
        · rw [if_pos (by omega)]
        · rw [if_neg (by omega)]
          omega
    | drop dispatcher dropped =>
      unfold without
      by_cases hdropped : dropped = caller
      · subst hdropped
        rw [if_pos rfl]
        exact .goes (closing_self dropped) (ih h hnext')
      · rw [if_neg hdropped]
        exact .dropped (closing_ne hdropped) rfl (ih h hnext')

end Plan

/-! ## Moves without a caller's decisions

For moves the caller's decisions are moves of their own. They are taken out, and what remains is
made on both sides. -/

namespace Move

/-- The caller that gives up, if one does. -/
def leaver? : Move → Option CallerId
  | .call _ _ _ => none
  | .cancel caller => some caller
  | .expire caller _ => some caller
  | .drop caller => some caller
  | .reply _ _ => none

/-- The moves with everything left out that a caller decides about its own wait. The callers
are numbered from `next`. -/
def overlooking (caller next : CallerId) : List Move → List Move
  | [] => []
  | .call method params patience :: rest =>
    .call method params (if next = caller then patience.overlooked else patience) ::
      overlooking caller (next + 1) rest
  | move :: rest =>
    if move.leaver? = some caller then overlooking caller next rest
    else move :: overlooking caller next rest

theorem exists_of_isCall {move : Move} (h : move.isCall = true) :
    ∃ method params patience, move = .call method params patience := by
  cases move with
  | call method params patience => exact ⟨method, params, patience, rfl⟩
  | cancel _ => cases h
  | expire _ _ => cases h
  | drop _ => cases h
  | reply _ _ => cases h

theorem overlooking_cons {move : Move} (h : move.isCall = false) (caller next : CallerId)
    (rest : List Move) : overlooking caller next (move :: rest) =
      if move.leaver? = some caller then overlooking caller next rest
      else move :: overlooking caller next rest := by
  cases move with
  | call method params patience => cases h
  | cancel _ => rfl
  | expire _ _ => rfl
  | drop _ => rfl
  | reply _ _ => rfl

end Move

namespace Timeline

variable {σ : Type} {v v' : View} {t t' : Timeline σ}

/-- A caller that is not seen gives up on one side alone. -/
theorem Alike.move_left (h : Alike v v' t t') (name : String) {m : Move} {i : CallerId}
    (hm : m.leaver? = some i) (hi : v i = none) : Alike v v' (t.move name m) t' := by
  cases m with
  | call method params patience => cases hm
  | cancel caller =>
    obtain rfl := Option.some.inj hm
    exact h.dismiss_left name hi .cancelled
  | expire caller limit =>
    obtain rfl := Option.some.inj hm
    exact h.dismiss_left name hi (.timedOut limit)
  | drop caller =>
    obtain rfl := Option.some.inj hm
    exact h.leave_left name hi
  | reply slot ending => cases hm

/-- A caller that is seen gives up on both sides, and round trips end there. -/
theorem Alike.move (h : Alike v v t t') (hv : v.Faithful) (hnow : t.now = t'.now)
    (name : String) {m : Move} (hcall : m.isCall = false)
    (hm : ∀ i, m.leaver? = some i → ∃ k, v i = some k) :
    Alike v v (t.move name m) (t'.move name m) := by
  cases m with
  | call method params patience => cases hcall
  | cancel caller =>
    obtain ⟨k, hk⟩ := hm caller rfl
    exact h.dismiss hv hv hnow name hk hk .cancelled
  | expire caller limit =>
    obtain ⟨k, hk⟩ := hm caller rfl
    exact h.dismiss hv hv hnow name hk hk (.timedOut limit)
  | drop caller =>
    obtain ⟨k, hk⟩ := hm caller rfl
    exact h.leave hv hv hnow name hk hk
  | reply slot ending =>
    have hseen : Appointment.seen v ⟨t'.now, .reply name slot ending⟩ =
        some ⟨t.now, .reply name slot ending⟩ := by
      rw [hnow]
      rfl
    exact h.comeAbout hv hv rfl hseen

/-- **What a caller decides about its own wait is not seen by the others**, move by move. On the
other side the caller comes too, since somebody has to start the round trip, and then it does
nothing. -/
theorem alike_play_overlooking {caller : CallerId}
    (h : Alike (leaveOut caller) (leaveOut caller) t t') (hnow : t.now = t'.now)
    (hcallers : t.callers = t'.callers) (name : String) (moves : List Move) :
    Alike (leaveOut caller) (leaveOut caller) (t.play name moves)
      (t'.play name (Move.overlooking caller t.callers moves)) := by
  induction moves generalizing t t' with
  | nil => exact h
  | cons m moves ih =>
    have hnows : ∀ m m', (t.move name m).now = (t'.move name m').now := by
      intro m m'
      rw [now_move, now_move, hnow]
    have hcallers' : ∀ m m', m.isCall = m'.isCall →
        (t.move name m).callers = (t'.move name m').callers := by
      intro m m' hsame
      rw [callers_move, callers_move, hcallers, hsame]
    cases hcall : m.isCall with
    | true =>
      obtain ⟨method, params, patience, rfl⟩ := Move.exists_of_isCall hcall
      have hnext := callers_call t name method params patience
      unfold Move.overlooking
      by_cases hcaller : t.callers = caller
      · rw [if_pos hcaller, ← hnext]
        -- the caller itself comes: on both sides it asks, so both start the same
        have hleft : leaveOut caller t.callers = none := hcaller ▸ leaveOut_self t.callers
        have hcalled := h.call_unseen name method params hnow hleft (hcallers ▸ hleft)
          patience.asks_overlooked.symm
        exact ih hcalled (hnows _ (.call ..)) (hcallers' _ (.call ..) rfl)
      · rw [if_neg hcaller, ← hnext]
        have hleft : leaveOut caller t.callers = some t.callers := leaveOut_ne hcaller
        have hfaithful := faithful_leaveOut caller
        have hcalled := h.call name method params hfaithful hfaithful hnow hleft
          (hcallers ▸ hleft) patience
        exact ih hcalled (hnows _ (.call ..)) (hcallers' _ (.call ..) rfl)
    | false =>
      have hsame : (t.move name m).callers = t.callers := by
        rw [callers_move, hcall]
        rfl
      rw [Move.overlooking_cons hcall]
      by_cases hleaver : m.leaver? = some caller
      · -- only the first timeline makes the move
        rw [if_pos hleaver, ← hsame]
        refine ih (h.move_left name hleaver (leaveOut_self caller)) ?_ (hsame.trans hcallers)
        rw [now_move, hnow]
      · rw [if_neg hleaver, ← hsame]
        have hseen : ∀ i, m.leaver? = some i → ∃ k, leaveOut caller i = some k := by
          intro i hi
          exact ⟨i, leaveOut_ne fun heq => hleaver (heq ▸ hi)⟩
        have hmoved := h.move (faithful_leaveOut caller) hnow name hcall hseen
        exact ih hmoved (hnows m m) (hcallers' m m rfl)

/-! ## What the others have of it

`Alike` speaks of views, and the main result should not. Here it is unfolded into what can be
compared without them: requests, memory, log, tables, round trips, and the list of endings with one
caller left out. -/

/-- The transport is asked the same, and the tables and round trips are the same. Nothing is said of
who waits; that is `endedBut`, for those who ended, and for those who have not it can be seen at a
later time. -/
structure SameTraffic (t t' : Timeline σ) : Prop where
  requests : t.requests = t'.requests
  memory : t.memory = t'.memory
  log : t.log = t'.log
  coalescer : ∀ name, (t.dispatcher name).coalescer = (t'.dispatcher name).coalescer
  trips : ∀ name, (t.dispatcher name).trips = (t'.dispatcher name).trips

/-- How everyone but one caller ended, and when. The order is kept, so that one caller ended before
another is part of it. -/
def endedBut (t : Timeline σ) (caller : CallerId) : List Ended :=
  t.ended.filter (·.caller ≠ caller)

theorem Alike.sameTraffic (h : Alike v v' t t') : SameTraffic t t' where
  requests := h.requests
  memory := h.memory
  log := h.log
  coalescer name := (Dispatcher.mk.inj (h.dispatcher name)).1
  trips name := (Dispatcher.mk.inj (h.dispatcher name)).2.1

theorem Alike.trans {t'' : Timeline σ} {v'' : View} (h : Alike v v' t t')
    (h' : Alike v' v'' t' t'') : Alike v v'' t t'' where
  transport := h.transport.trans h'.transport
  memory := h.memory.trans h'.memory
  requests := h.requests.trans h'.requests
  log := h.log.trans h'.log
  dispatcher name := (h.dispatcher name).trans (h'.dispatcher name)
  agenda := h.agenda.trans h'.agenda
  ended := h.ended.trans h'.ended
  inOrder := h.inOrder
  inOrder' := h'.inOrder'

/-- Who is numbered as if a caller had not come is seen by everyone but that caller. -/
theorem seen_closing (caller : CallerId) (ended : List Ended) :
    ended.filterMap (Ended.seen (closing caller)) =
      (ended.filter (·.caller ≠ caller)).map
        fun e => { e with caller := Plan.renumber caller e.caller } := by
  rw [← List.filterMap_eq_map', List.filterMap_filter]
  apply List.filterMap_congr
  intro e _
  unfold Ended.seen closing
  by_cases hcaller : e.caller = caller
  · simp [hcaller]
  · simp [hcaller]

theorem seen_leaveOut (caller : CallerId) (ended : List Ended) :
    ended.filterMap (Ended.seen (leaveOut caller)) = ended.filter (·.caller ≠ caller) := by
  rw [← List.filterMap_eq_filter]
  apply List.filterMap_congr
  intro e _
  unfold Ended.seen leaveOut
  by_cases hcaller : e.caller = caller
  · simp [hcaller, Option.guard]
  · simp [hcaller, Option.guard]

theorem seen_some (ended : List Ended) : ended.filterMap (Ended.seen some) = ended :=
  List.filterMap_some

theorem Alike.endedBut_eq {caller : CallerId}
    (h : Alike (leaveOut caller) (leaveOut caller) t t') :
    t.endedBut caller = t'.endedBut caller := by
  have hended := h.ended
  rwa [seen_leaveOut, seen_leaveOut] at hended

/-- **Giving up concerns nobody else.** However one caller waits and whenever it stops, as long
as it asks: the requests to the transport, the tables at every moment and how and when every
other caller ends are the same. This holds for moves in any order, and for plans, where what
the transport answers follows. A caller that is cancelled before it asks changes nothing: all
goes as if it had not come, and those who come after it have the number before theirs. -/
theorem cancellation_isolation (transport : Transport σ) (memory : σ) (caller : CallerId) :
    (∀ (name : String) (moves moves' : List Move),
      Move.overlooking caller 0 moves = Move.overlooking caller 0 moves' →
        SameTraffic ((start transport memory).play name moves)
          ((start transport memory).play name moves') ∧
        ((start transport memory).play name moves).endedBut caller =
          ((start transport memory).play name moves').endedBut caller) ∧
    (∀ plan plan' : Plan, plan.InOrder → plan'.InOrder →
      plan.overlooking caller 0 = plan'.overlooking caller 0 → ∀ time,
        SameTraffic ((start transport memory).asOf plan time)
          ((start transport memory).asOf plan' time) ∧
        ((start transport memory).asOf plan time).endedBut caller =
          ((start transport memory).asOf plan' time).endedBut caller) ∧
    (∀ plan : Plan, plan.InOrder →
      plan.patience? caller 0 = some (.cancelledAfter 0) → ∀ time,
        SameTraffic ((start transport memory).asOf plan time)
          ((start transport memory).asOf (plan.without caller 0) time) ∧
        (((start transport memory).asOf plan time).endedBut caller).map
            (fun e => { e with caller := Plan.renumber caller e.caller }) =
          ((start transport memory).asOf (plan.without caller 0) time).ended) := by
  have hfaithful := faithful_leaveOut caller
  refine ⟨?_, ?_, ?_⟩
  · intro name moves moves' hsame
    have hstart := alike_start transport memory (leaveOut caller) (leaveOut caller)
    have hleft := alike_play_overlooking hstart rfl rfl name moves
    have hright := alike_play_overlooking hstart rfl rfl name moves'
    -- both are like the run in which the caller asks and then does nothing
    have hboth := hleft.trans (hsame ▸ hright.symm)
    exact ⟨hboth.sameTraffic, hboth.endedBut_eq⟩
  · intro plan plan' hplan hplan' hsame time
    have hleft := alike_asOf (plan.shadows_overlooking caller 0) hfaithful hfaithful hplan
      transport memory time
    have hright := alike_asOf (plan'.shadows_overlooking caller 0) hfaithful hfaithful hplan'
      transport memory time
    have hboth := hleft.trans (hsame ▸ hright.symm)
    exact ⟨hboth.sameTraffic, hboth.endedBut_eq⟩
  · intro plan hplan hcancelled time
    have hidle : ∀ patience, plan.patience? caller 0 = some patience →
        patience.asks = false := by
      intro patience hpatience
      obtain rfl := Option.some.inj (hcancelled.symm.trans hpatience)
      rfl
    have hshadow : Plan.Shadows (closing caller) some 0 0 plan (plan.without caller 0) :=
      Plan.shadows_without hidle (if_pos (Nat.zero_le _)).symm
    have hboth := alike_asOf hshadow (faithful_closing caller) faithful_some hplan transport
      memory time
    refine ⟨hboth.sameTraffic, ?_⟩
    have hended := hboth.ended
    rwa [seen_closing, seen_some] at hended

/-- A transport that takes its time. -/
def slowly : List Rule := [⟨"getinfo", none, 10, false, [.ok .null]⟩]

/-- The owner of a round trip is dropped before it ends; another caller shares it. -/
def ownerDropped : Plan :=
  [(0, .call "node" "getinfo" [] .unlimited), (3, .call "node" "getinfo" [] .unlimited),
    (5, .drop "node" 0)]

/-- The owner of a round trip is out of time at once. -/
def ownerOutOfTime : Plan :=
  [(0, .call "node" "getinfo" [] (.within ⟨0⟩ 0)), (3, .call "node" "getinfo" [] .unlimited)]

/-- The first caller is cancelled before it asks. -/
def firstCancelled : Plan :=
  [(0, .call "node" "getinfo" [] (.cancelledAfter 0)), (3, .call "node" "getinfo" [] .unlimited)]

/-- The second caller has its answer with the round trip of the first, or on its own if the
first did not ask. -/
theorem cancellation_isolation_owner :
    (∀ time, ((start Transport.scripted slowly).asOf ownerDropped time).endedBut 0 =
      ((start Transport.scripted slowly).asOf ownerOutOfTime time).endedBut 0) ∧
    ((start Transport.scripted slowly).asOf ownerOutOfTime 20).endedBut 0 =
      [⟨1, 10, .outcome (.ok .null)⟩] ∧
    ((start Transport.scripted slowly).play "node"
      [.call "getinfo" [] .unlimited, .call "getinfo" [] .unlimited, .cancel 0,
        .reply 0 .dies]).requests =
      ((start Transport.scripted slowly).play "node"
        [.call "getinfo" [] (.cancelledAfter 2), .call "getinfo" [] .unlimited,
          .reply 0 .dies]).requests ∧
    (((start Transport.scripted slowly).asOf firstCancelled 20).endedBut 0).map
        (fun e => { e with caller := Plan.renumber 0 e.caller }) =
      [⟨0, 13, .outcome (.ok .null)⟩] := by
  obtain ⟨hmoves, hplans, hcancelled⟩ := cancellation_isolation Transport.scripted slowly 0
  refine ⟨fun time => (hplans ownerDropped ownerOutOfTime ?_ ?_ rfl time).2, rfl,
    (hmoves "node" _ _ rfl).1.requests, (hcancelled firstCancelled ?_ rfl 20).2.trans rfl⟩
  · simp [Plan.InOrder, ownerDropped]
  · simp [Plan.InOrder, ownerOutOfTime]
  · simp [Plan.InOrder, firstCancelled]

end Timeline
end NodeRpc
