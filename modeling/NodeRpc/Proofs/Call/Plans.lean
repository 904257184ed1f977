import NodeRpc.Proofs.Call.Alike

/-!
# Runs by a plan

A plan says when callers come and when they are dropped. All the rest, the replies of the transport,
deadlines and cancellations, follows from it (`follow`, `asOf`).

This is the other way to say what may happen, beside the moves in any order of
`NodeRpc.Proofs.Call.Moves`. A plan fixes only what is done from outside, so two plans that differ
in one caller's patience are two runs whose continuations are not given. That the transport answers
the second as it answered the first is then something to be proved, and not something that was
written into both.

One plan is in the shadow of another (`Shadows`) if it does what is seen of it. The relation goes
along the two lists and has a constructor for each thing that may stand in front; the two in which
the plans are not of one length, `idle` and `goes`, are a caller that is cancelled before it asks
and a caller that is dropped.

The two plans are compared along the way (`alike_asOf`). As one of them may have more to do, its
clock may be ahead of the other's when it is looked at, and then the timelines are not alike as they
stand. What is kept is that they will be if time passes on both (`Behind`).
-/

namespace NodeRpc

/-- What is done to a timeline from outside. All else comes about by itself, as the transport and
the patience of the callers have it. -/
inductive Deed where
  /-- A caller comes to a dispatcher. -/
  | call (dispatcher method : String) (params : List Json) (patience : Patience)
  /-- A caller of a dispatcher is dropped. -/
  | drop (dispatcher : String) (caller : CallerId)

/-- What is done, and when. A plan does not know the answers, so callers cannot do one thing or
another by what they have got. -/
abbrev Plan := List (Nat × Deed)

namespace Plan

/-- Nothing stands before something that is done earlier. Things at one time are done in the order
in which they stand. -/
def InOrder (plan : Plan) : Prop := plan.Pairwise fun a b => a.1 ≤ b.1

/-- What is done up to a time. -/
def upTo (plan : Plan) (time : Nat) : Plan := plan.takeWhile (·.1 ≤ time)

theorem upTo_cons_of_le {entry : Nat × Deed} {plan : Plan} {time : Nat} (h : entry.1 ≤ time) :
    upTo (entry :: plan) time = entry :: upTo plan time :=
  List.takeWhile_cons_of_pos (decide_eq_true h)

theorem upTo_cons_of_lt {entry : Nat × Deed} {plan : Plan} {time : Nat} (h : ¬entry.1 ≤ time) :
    upTo (entry :: plan) time = [] :=
  List.takeWhile_cons_of_neg (by simpa using h)

/-- The plan with everything left out that a caller decides about its own wait: how long it is
willing to wait, if it asks at all, and whether it is dropped. The callers of the plan are numbered
from `next`. Two plans that are equal after this are two plans that differ in that caller's
decisions alone, in any number of them. -/
def overlooking (caller next : CallerId) : Plan → Plan
  | [] => []
  | (time, .call dispatcher method params patience) :: rest =>
    (time, .call dispatcher method params
      (if next = caller then patience.overlooked else patience)) ::
        overlooking caller (next + 1) rest
  | (time, .drop dispatcher dropped) :: rest =>
    if dropped = caller then overlooking caller next rest
    else (time, .drop dispatcher dropped) :: overlooking caller next rest

/-- The number of a caller when another one is left out. -/
def renumber (without caller : Nat) : Nat := if caller < without then caller else caller - 1

theorem renumber_inj {caller i j : Nat} (hi : i ≠ caller) (hj : j ≠ caller)
    (h : renumber caller i = renumber caller j) : i = j := by
  unfold renumber at h
  split at h
  · split at h
    · exact h
    · omega
  · split at h
    · omega
    · omega

/-- The plan without a caller. It does not come, nobody drops it, and the callers after it have
numbers that are one less. -/
def without (caller next : CallerId) : Plan → Plan
  | [] => []
  | (time, .call dispatcher method params patience) :: rest =>
    if next = caller then without caller (next + 1) rest
    else (time, .call dispatcher method params patience) :: without caller (next + 1) rest
  | (time, .drop dispatcher dropped) :: rest =>
    if dropped = caller then without caller next rest
    else (time, .drop dispatcher (renumber caller dropped)) :: without caller next rest

/-- How long a caller of the plan is willing to wait. -/
def patience? (caller next : CallerId) : Plan → Option Patience
  | [] => none
  | (_, .call _ _ _ patience) :: rest =>
    if next = caller then some patience else patience? caller (next + 1) rest
  | (_, .drop _ _) :: rest => patience? caller next rest

/-! ## One plan in the shadow of another

What is done up to a time shadows what is done up to the time, if the plans are in order: that a
plan in the shadow does nothing at a time of its own is what makes the cut come at the same place in
both. -/

/-- The second plan does what is seen of the first. The callers of the plans are numbered from `n`
and `n'`, which differ when a caller that does not ask stands in the first plan alone. -/
inductive Shadows (v v' : View) : CallerId → CallerId → Plan → Plan → Prop
  | nil {n n' : CallerId} : Shadows v v' n n' [] []
  /-- A caller that is seen comes. -/
  | seen {n n' k : CallerId} {plan plan' : Plan} {time : Nat} {dispatcher method : String}
    {params : List Json} {patience : Patience} (hn : v n = some k) (hn' : v' n' = some k)
    (rest : Shadows v v' (n + 1) (n' + 1) plan plan') :
    Shadows v v' n n' ((time, .call dispatcher method params patience) :: plan)
      ((time, .call dispatcher method params patience) :: plan')
  /-- A caller that is not seen comes, and asks on both sides or on neither. -/
  | unseen {n n' : CallerId} {plan plan' : Plan} {time : Nat} {dispatcher method : String}
    {params : List Json} {patience patience' : Patience} (hn : v n = none) (hn' : v' n' = none)
    (hasks : patience.asks = patience'.asks)
    (rest : Shadows v v' (n + 1) (n' + 1) plan plan') :
    Shadows v v' n n' ((time, .call dispatcher method params patience) :: plan)
      ((time, .call dispatcher method params patience') :: plan')
  /-- A caller that is not seen comes, and does not ask. -/
  | idle {n n' : CallerId} {plan plan' : Plan} {time : Nat} {dispatcher method : String}
    {params : List Json} {patience : Patience} (hn : v n = none)
    (hidle : patience.asks = false) (rest : Shadows v v' (n + 1) n' plan plan') :
    Shadows v v' n n' ((time, .call dispatcher method params patience) :: plan) plan'
  /-- A caller that is seen is dropped. -/
  | dropped {n n' i j k : CallerId} {plan plan' : Plan} {time : Nat} {dispatcher : String}
    (hi : v i = some k) (hj : v' j = some k) (rest : Shadows v v' n n' plan plan') :
    Shadows v v' n n' ((time, .drop dispatcher i) :: plan) ((time, .drop dispatcher j) :: plan')
  /-- A caller that is not seen is dropped. -/
  | goes {n n' i : CallerId} {plan plan' : Plan} {time : Nat} {dispatcher : String}
    (hi : v i = none) (rest : Shadows v v' n n' plan plan') :
    Shadows v v' n n' ((time, .drop dispatcher i) :: plan) plan'

section Shadows

variable {v v' : View} {n n' : CallerId} {plan plan' : Plan}

/-- Nothing is done at a time at which the first plan does nothing. -/
theorem Shadows.exists_time (h : Shadows v v' n n' plan plan') {entry : Nat × Deed}
    (hentry : entry ∈ plan') : ∃ first ∈ plan, first.1 = entry.1 := by
  have hmore : ∀ {added : Nat × Deed} {plan : Plan}, (∃ first ∈ plan, first.1 = entry.1) →
      ∃ first ∈ added :: plan, first.1 = entry.1 := by
    rintro added plan ⟨first, hfirst, heq⟩
    exact ⟨first, List.mem_cons_of_mem _ hfirst, heq⟩
  induction h with
  | nil => cases hentry
  | seen _ _ _ ih =>
    rcases List.mem_cons.mp hentry with rfl | hentry
    · exact ⟨_, List.mem_cons_self, rfl⟩
    · exact hmore (ih hentry)
  | unseen _ _ _ _ ih =>
    rcases List.mem_cons.mp hentry with rfl | hentry
    · exact ⟨_, List.mem_cons_self, rfl⟩
    · exact hmore (ih hentry)
  | idle _ _ _ ih => exact hmore (ih hentry)
  | dropped _ _ _ ih =>
    rcases List.mem_cons.mp hentry with rfl | hentry
    · exact ⟨_, List.mem_cons_self, rfl⟩
    · exact hmore (ih hentry)
  | goes _ _ ih => exact hmore (ih hentry)

/-- Behind the time up to which things are done, neither plan does anything. -/
theorem Shadows.upTo_eq_nil (h : Shadows v v' n n' plan plan') {time : Nat}
    (hlater : ∀ entry ∈ plan, time < entry.1) : plan'.upTo time = [] := by
  unfold Plan.upTo
  cases plan' with
  | nil => rfl
  | cons entry rest =>
    obtain ⟨first, hfirst, heq⟩ := h.exists_time List.mem_cons_self
    have hlt := hlater first hfirst
    rw [List.takeWhile_cons_of_neg]
    rw [decide_eq_true_eq]
    omega

/-- What comes too late is left out of both. -/
theorem Shadows.upTo_of_lt {entry : Nat × Deed} (h : Shadows v v' n n' (entry :: plan) plan')
    (hplan : Plan.InOrder (entry :: plan)) {time : Nat} (hlate : ¬entry.1 ≤ time) :
    Shadows v v' n n' (Plan.upTo (entry :: plan) time) (plan'.upTo time) := by
  have hlater : ∀ later ∈ entry :: plan, time < later.1 := by
    intro later hlater
    rcases List.mem_cons.mp hlater with rfl | hlater
    · omega
    · have hle := (List.pairwise_cons.mp hplan).1 later hlater
      omega
  rw [h.upTo_eq_nil hlater, Plan.upTo_cons_of_lt hlate]
  exact .nil

/-- What is done up to a time shadows what is done up to it. -/
theorem Shadows.upTo (h : Shadows v v' n n' plan plan') (hplan : plan.InOrder) (time : Nat) :
    Shadows v v' n n' (plan.upTo time) (plan'.upTo time) := by
  -- plans are in order, so where one entry is not due none behind it is
  induction h with
  | nil => exact .nil
  | @seen n n' k plan plan' first dispatcher method params patience hn hn' rest ih =>
    by_cases hdue : first ≤ time
    · rw [Plan.upTo_cons_of_le hdue, Plan.upTo_cons_of_le hdue]
      exact .seen hn hn' (ih hplan.of_cons)
    · exact Shadows.upTo_of_lt (.seen hn hn' rest) hplan hdue
  | @unseen n n' plan plan' first dispatcher method params patience patience' hn hn' hasks rest
      ih =>
    by_cases hdue : first ≤ time
    · rw [Plan.upTo_cons_of_le hdue, Plan.upTo_cons_of_le hdue]
      exact .unseen hn hn' hasks (ih hplan.of_cons)
    · exact Shadows.upTo_of_lt (.unseen hn hn' hasks rest) hplan hdue
  | @idle n n' plan plan' first dispatcher method params patience hn hidle rest ih =>
    by_cases hdue : first ≤ time
    · rw [Plan.upTo_cons_of_le hdue]
      exact .idle hn hidle (ih hplan.of_cons)
    · exact Shadows.upTo_of_lt (.idle hn hidle rest) hplan hdue
  | @dropped n n' i j k plan plan' first dispatcher hi hj rest ih =>
    by_cases hdue : first ≤ time
    · rw [Plan.upTo_cons_of_le hdue, Plan.upTo_cons_of_le hdue]
      exact .dropped hi hj (ih hplan.of_cons)
    · exact Shadows.upTo_of_lt (.dropped hi hj rest) hplan hdue
  | @goes n n' i plan plan' first dispatcher hi rest ih =>
    by_cases hdue : first ≤ time
    · rw [Plan.upTo_cons_of_le hdue]
      exact .goes hi (ih hplan.of_cons)
    · exact Shadows.upTo_of_lt (.goes hi rest) hplan hdue

end Shadows

end Plan

/-! ## Following plans -/

namespace Timeline

variable {σ : Type}

/-- Does a deed. -/
def act (t : Timeline σ) : Deed → Timeline σ
  | .call dispatcher method params patience => (t.call dispatcher method params patience).2
  | .drop dispatcher caller => t.drop dispatcher caller

/-- Does what is planned, each thing at its time. -/
def follow (t : Timeline σ) (plan : Plan) : Timeline σ :=
  plan.foldl (fun t entry => (t.passUntil entry.1).act entry.2) t

/-- How things stand at a time if all goes by the plan. -/
def asOf (t : Timeline σ) (plan : Plan) (time : Nat) : Timeline σ :=
  (t.follow (plan.upTo time)).passUntil time

/-! ## Time passes behind a plan

The induction along two plans. Its invariant cannot be `Alike`, as the plan that drops a caller
moves the clock for that and the other does not. -/

section Follow

variable {v v' : View} {n n' : CallerId} {plan plan' : Plan} {t t' : Timeline σ}

theorem callers_called (t : Timeline σ) (time : Nat) (dispatcher method : String)
    (params : List Json) (patience : Patience) :
    ((t.passUntil time).act (.call dispatcher method params patience)).callers =
      t.callers + 1 := by
  unfold act
  rw [callers_call, callers_passUntil]

theorem callers_dropped (t : Timeline σ) (time : Nat) (dispatcher : String)
    (caller : CallerId) :
    ((t.passUntil time).act (.drop dispatcher caller)).callers = t.callers :=
  (callers_happen _ dispatcher _).trans (callers_passUntil t time)

theorem now_act (t : Timeline σ) (deed : Deed) : (t.act deed).now = t.now := by
  cases deed with
  | call dispatcher method params patience => exact now_call t dispatcher method params patience
  | drop dispatcher caller => exact now_happen t dispatcher _

theorem now_acted_le {time : Nat} {deed : Deed} (h : Plan.InOrder ((time, deed) :: plan)) :
    ∀ entry ∈ plan, ((t.passUntil time).act deed).now ≤ entry.1 := by
  intro entry hentry
  rw [now_act]
  exact (List.pairwise_cons.mp h).1 entry hentry

theorem now_follow_le {time : Nat} (ht : t.now ≤ time)
    (hplan : ∀ entry ∈ plan, entry.1 ≤ time) : (t.follow plan).now ≤ time := by
  induction plan generalizing t with
  | nil => exact ht
  | cons entry plan ih =>
    refine ih ?_ fun later hlater => hplan later (List.mem_cons_of_mem _ hlater)
    rw [now_act, now_passUntil]
    exact hplan entry List.mem_cons_self

/-- Whenever one looks from now on, the timelines are alike. One of them may be ahead, since what is
due by now may have come about on one side only. -/
def Behind (v v' : View) (t t' : Timeline σ) : Prop :=
  ∀ time, t.now ≤ time → Alike v v' (t.passUntil time) (t'.passUntil time)

theorem Alike.behind (h : Alike v v' t t') (hv : v.Faithful) (hv' : v'.Faithful) :
    Behind v v' t t' := fun time _ => h.passUntil hv hv' time

/-- A timeline may be ahead of one that is alike when time has passed there. -/
theorem Alike.behind_left {time : Nat} (h : Alike v v' t (t'.passUntil time))
    (hv : v.Faithful) (hv' : v'.Faithful) (ht : time ≤ t.now) : Behind v v' t t' := by
  intro last hlast
  rw [← passUntil_passUntil t' (Nat.le_trans ht hlast)]
  exact h.passUntil hv hv' last

/-- **Following plans of which one shadows the other.** What both do is done at the same time;
what one does alone is not seen, and the other is stopped there for the comparison. -/
theorem behind_follow (h : Plan.Shadows v v' n n' plan plan') (hv : v.Faithful)
    (hv' : v'.Faithful) (hplan : plan.InOrder) (ht : t.callers = n) (ht' : t'.callers = n')
    (hbehind : Behind v v' t t') (hnow : ∀ entry ∈ plan, t.now ≤ entry.1) :
    Behind v v' (t.follow plan) (t'.follow plan') := by
  -- the clocks agree only at the times at which both act, so `Behind` is carried, not `Alike`
  induction h generalizing t t' with
  | nil => exact hbehind
  | @seen n n' k plan plan' time dispatcher method params patience hn hn' rest ih =>
    have halike := hbehind time (hnow _ List.mem_cons_self)
    rw [← ht, ← callers_passUntil t time] at hn
    rw [← ht', ← callers_passUntil t' time] at hn'
    have hcalled := halike.call dispatcher method params hv hv' rfl hn hn' patience
    refine ih hplan.of_cons (by rw [← ht, callers_called]) (by rw [← ht', callers_called]) ?_ ?_
    · exact hcalled.behind hv hv'
    · exact now_acted_le hplan
  | @unseen n n' plan plan' time dispatcher method params patience patience' hn hn' hasks rest
      ih =>
    have halike := hbehind time (hnow _ List.mem_cons_self)
    rw [← ht, ← callers_passUntil t time] at hn
    rw [← ht', ← callers_passUntil t' time] at hn'
    have hcalled := halike.call_unseen dispatcher method params rfl hn hn' hasks
    refine ih hplan.of_cons (by rw [← ht, callers_called]) (by rw [← ht', callers_called]) ?_ ?_
    · exact hcalled.behind hv hv'
    · exact now_acted_le hplan
  | @idle n n' plan plan' time dispatcher method params patience hn hidle rest ih =>
    have halike := hbehind time (hnow _ List.mem_cons_self)
    -- the other timeline waits at this time, and the numbers drift apart by one
    rw [← ht, ← callers_passUntil t time] at hn
    have hcalled := halike.call_idle_left dispatcher method params hn hidle
    refine ih hplan.of_cons (by rw [← ht, callers_called]) ht' ?_ ?_
    · exact hcalled.behind_left hv hv' (now_call (t.passUntil time) _ _ _ _).ge
    · exact now_acted_le hplan
  | @dropped n n' i j k plan plan' time dispatcher hi hj rest ih =>
    have halike := hbehind time (hnow _ List.mem_cons_self)
    have hleft := halike.leave hv hv' rfl dispatcher hi hj
    refine ih hplan.of_cons (by rw [← ht, callers_dropped]) (by rw [← ht', callers_dropped]) ?_ ?_
    · exact hleft.behind hv hv'
    · exact now_acted_le hplan
  | @goes n n' i plan plan' time dispatcher hi rest ih =>
    have halike := hbehind time (hnow _ List.mem_cons_self)
    have hleft := halike.leave_left dispatcher hi
    refine ih hplan.of_cons (by rw [← ht, callers_dropped]) ht' ?_ ?_
    · exact hleft.behind_left hv hv' (now_happen (t.passUntil time) _ _).ge
    · exact now_acted_le hplan

/-- At every time the runs of two plans are alike if one shadows the other. -/
theorem alike_asOf (h : Plan.Shadows v v' 0 0 plan plan') (hv : v.Faithful) (hv' : v'.Faithful)
    (hplan : plan.InOrder) (transport : Transport σ) (memory : σ) (time : Nat) :
    Alike v v' ((start transport memory).asOf plan time)
      ((start transport memory).asOf plan' time) := by
  have hstart := (alike_start transport memory v v').behind hv hv'
  have hdue : (plan.upTo time).InOrder := hplan.sublist (List.takeWhile_sublist _)
  have hfollow := behind_follow (h.upTo hplan time) hv hv' hdue rfl rfl hstart
    fun _ _ => Nat.zero_le _
  refine hfollow time (now_follow_le (Nat.zero_le _) ?_)
  intro entry hentry
  exact of_decide_eq_true (List.mem_takeWhile_imp (p := fun e : Nat × Deed => e.1 ≤ time) hentry)

end Follow

end Timeline
end NodeRpc
