import NodeRpc.Call.Batch
import NodeRpc.Proofs.Call.KeyIdentity
import NodeRpc.Proofs.Call.OnTime

/-!
# Callers who come together

The operations of a batch all come before anything comes about, also what is due at once. So of
those with one key the first starts a round trip and the others join it (`Batch.starters`), however
short the round trip is. What each of them ends with is settled when all have come
(`callAll_settled`): at a dispatcher where nothing is outstanding it is what the transport makes of
the round trip of its key.

"All come before anything comes about" is not an assumption about a lucky schedule. The calls of a
batch are made by one task that does not wait in between, so no other task runs until the last of
them has been made. A transport that answers at once still answers after that, and this is what lets
a burst or a batch of any size be one request.

What a caller will end with is said while it still waits. `Settled` is that its fate is on the
agenda, or has come about already, and that nothing which others do can change it. So the results of
a batch can be computed from what the transport makes of the requests, without running the timeline
to where the results are in.

Timelines are taken as callers and time can make them (`Reached`), with whatever else is going on:
other callers of the same dispatcher, other dispatchers over the same transport, round trips under
way.
-/

namespace NodeRpc

/-- What a transport makes of requests that are sent one after the other. -/
def Transport.replies {σ : Type} (transport : Transport σ) : σ → List (String × List Json) →
    List Reply
  | _, [] => []
  | memory, (method, params) :: rest =>
    let (reply, memory) := transport.send memory method params
    reply :: transport.replies memory rest

theorem Transport.length_replies {σ : Type} (transport : Transport σ) (memory : σ)
    (requests : List (String × List Json)) :
    (transport.replies memory requests).length = requests.length := by
  induction requests generalizing memory with
  | nil => rfl
  | cons request requests ih => exact congrArg (· + 1) (ih _)

section Operations

variable {α : Type}

def Operation.request (op : Operation α) : String × List Json := (op.method, op.params)

/-- Of operations that come together those that start a round trip: the first one of each key,
unless a round trip of the key is outstanding. The order is that in which they come, and it is the
order in which the transport is asked. -/
def Batch.starters (outstanding : List RequestKey) : Batch α → Batch α
  | [] => []
  | op :: rest =>
    if op.key ∈ outstanding then Batch.starters outstanding rest
    else op :: Batch.starters (outstanding ++ [op.key]) rest

namespace Batch

variable {outstanding : List RequestKey} {op : Operation α} {rest : Batch α}

theorem starters_of_mem (h : op.key ∈ outstanding) :
    starters outstanding (op :: rest) = starters outstanding rest := if_pos h

theorem starters_of_notMem (h : op.key ∉ outstanding) :
    starters outstanding (op :: rest) = op :: starters (outstanding ++ [op.key]) rest := if_neg h

/-- **One round trip is started for each key**, and none for a key that has one. The batch may ask
for a key as often as it likes. -/
theorem nodup_starters (outstanding : List RequestKey) (batch : Batch α) :
    ((starters outstanding batch).map Operation.key).Nodup ∧
      ∀ op ∈ starters outstanding batch, op.key ∉ outstanding := by
  induction batch generalizing outstanding with
  | nil => exact ⟨List.nodup_nil, fun op hop => (List.not_mem_nil hop).elim⟩
  | cons op rest ih =>
    by_cases hmem : op.key ∈ outstanding
    · rw [starters_of_mem hmem]
      exact ih outstanding
    · obtain ⟨hnodup, hnew⟩ := ih (outstanding ++ [op.key])
      rw [starters_of_notMem hmem]
      refine ⟨List.nodup_cons.mpr ⟨fun hkey => ?_, hnodup⟩, fun later hlater => ?_⟩
      · obtain ⟨later, hlater, heq⟩ := List.mem_map.mp hkey
        exact hnew later hlater (heq ▸ List.mem_append_right _ (List.mem_singleton_self _))
      · rcases List.mem_cons.mp hlater with rfl | hlater
        · exact hmem
        · exact fun hold => hnew later hlater (List.mem_append_left _ hold)

/-- Where the key tells apart what operations are made of, these are the distinct ones. -/
theorem starters_map {β : Type} [DecidableEq β] {f : β → Operation α}
    (hf : Function.Injective fun x => (f x).key) (outstanding : List RequestKey) (xs : List β) :
    starters outstanding (xs.map f) =
      (xs.filter fun x => (f x).key ∉ outstanding).eraseDups.map f := by
  induction xs generalizing outstanding with
  | nil => rfl
  | cons x xs ih =>
    rw [List.map_cons]
    by_cases hmem : (f x).key ∈ outstanding
    · rw [starters_of_mem hmem, ih, List.filter_cons_of_neg (by simpa using hmem)]
    · rw [starters_of_notMem hmem, ih, List.filter_cons_of_pos (by simpa using hmem),
        List.eraseDups_cons, List.map_cons, List.filter_filter]
      have hfilter : xs.filter (fun y => (f y).key ∉ outstanding ++ [(f x).key]) =
          xs.filter fun y => !y == x && decide ((f y).key ∉ outstanding) := by
        refine List.filter_congr fun y _ => Bool.eq_iff_iff.mpr ?_
        have hiff : (f y).key = (f x).key ↔ y = x := hf.eq_iff
        simp [hiff, and_comm]
      rw [hfilter]

end Batch
end Operations

namespace Timeline

variable {σ : Type}

/-! ## What can happen to a timeline

The timelines in question, as an inductive with one constructor for each thing that can be done, and
what is known of all of them. -/

theorem AllSound.act {t : Timeline σ} (h : t.AllSound) (deed : Deed) : (t.act deed).AllSound := by
  cases deed with
  | drop name caller => exact h.happen name _
  | call name method params patience =>
    have hasked : (t.asked name method params).AllSound :=
      AllSound.happen (t := { t with callers := t.callers + 1 }) h name _
    show (t.call name method params patience).2.AllSound
    rw [call_eq]
    rcases patience with - | (- | delay) | ⟨limit, - | ticks⟩
    · exact hasked
    · -- it does not ask, and its dispatcher stays as it is
      intro other
      have hsame := dispatcher_setDispatcher_same { t with callers := t.callers + 1 } name other
      exact hsame.symm ▸ h other
    · exact hasked
    · exact hasked.dismiss name _ _
    · exact hasked

/-- What callers do and time that passes can make of a transport's timeline. Of the past of such a
timeline nothing else is known, and nothing needs to be. -/
inductive Reached (transport : Transport σ) : Timeline σ → Prop
  | start (memory : σ) : Reached transport (start transport memory)
  | act {t : Timeline σ} (h : Reached transport t) (deed : Deed) : Reached transport (t.act deed)
  | passUntil {t : Timeline σ} (h : Reached transport t) {time : Nat} (htime : t.now ≤ time) :
    Reached transport (t.passUntil time)

section Reached

variable {transport : Transport σ} {t : Timeline σ}

/-- **Whatever happens, a timeline carries the flights that were started.** There is no need to know
what they are: that there are such flights is what lets a caller who comes now be told when and how
it ends. -/
theorem Reached.carries (h : Reached transport t) :
    ∃ flights, Carries transport t.agenda t.now t flights := by
  induction h with
  | start memory => exact ⟨_, carries_start transport memory 0⟩
  | @passUntil t h time htime ih =>
    obtain ⟨flights, hcarries⟩ := ih
    exact ⟨flights, hcarries.passUntil htime⟩
  | @act t h deed ih =>
    obtain ⟨flights, hcarries⟩ := ih
    cases deed with
    | drop name caller => exact ⟨flights, hcarries.drop name caller⟩
    | call name method params patience =>
      rw [now_act]
      rcases hcarries.asked_cases name method params with
        ⟨-, -, -, -, hagenda, hasked⟩ | ⟨-, -, -, -, hasked⟩
      · exact ⟨_, hcarries.of_asked name method params (hagenda.symm ▸ hasked) patience⟩
      · exact ⟨_, hcarries.of_asked name method params hasked patience⟩

/-- **Nothing is known of a caller before it comes.** Callers are numbered as they come, so the next
one has a number that nothing mentions. -/
theorem Reached.absent (h : Reached transport t) {caller : CallerId}
    (hcaller : t.callers ≤ caller) : Absent t caller := by
  induction h with
  | start memory => exact absent_start transport memory caller
  | @passUntil t h time htime ih =>
    obtain ⟨flights, hcarries⟩ := h.carries
    rw [callers_passUntil] at hcaller
    exact (ih hcaller).passUntil hcarries.sound time
  | @act t h deed ih =>
    obtain ⟨flights, hcarries⟩ := h.carries
    rw [callers_act] at hcaller
    exact (ih (Nat.le_trans (Nat.le_add_right _ _) hcaller)).act hcarries.sound hcaller

end Reached

/-! ## What a caller ends with -/

/-- It is settled what a caller ends with: it has ended so, or what is to come ends it so. When that
will be is not said, as it does not matter to whoever collects the results. -/
def Settled (t : Timeline σ) (name : String) (caller : CallerId) (ending : Ending) : Prop :=
  caller < t.callers ∧
    ∃ slot last, Fated t name caller slot last ∧ (last.ends caller).ending = ending

section Settled

variable {t : Timeline σ} {name : String} {caller : CallerId} {ending : Ending}

/-- Either it has ended, or something is to come. -/
theorem Settled.cases (h : Settled t name caller ending) :
    t.ending? caller = some ending ∨ t.ending? caller = none ∧ t.agenda ≠ [] := by
  obtain ⟨-, slot, last, hfated, rfl⟩ := h
  rw [ending?_eq_head?]
  cases hfated with
  | finished hover _ =>
    rw [hover]
    exact Or.inl rfl
  | waits hwaits hfirst =>
    rw [hwaits]
    exact Or.inr ⟨rfl, List.ne_nil_of_mem (List.mem_of_find?_eq_some hfirst)⟩

theorem Settled.act (h : Settled t name caller ending) (hsound : t.AllSound) (deed : Deed)
    (hkept : deed ≠ .drop name caller) : Settled (t.act deed) name caller ending := by
  obtain ⟨hcome, slot, last, hfated, hends⟩ := h
  refine ⟨?_, slot, last, hfated.act hsound hcome hkept, hends⟩
  rw [callers_act]
  exact Nat.lt_of_lt_of_le hcome (Nat.le_add_right _ _)

theorem Settled.passUntil (h : Settled t name caller ending) (hsound : t.AllSound)
    (hagenda : InOrder t.agenda) {time : Nat} (htime : t.now ≤ time) :
    Settled (t.passUntil time) name caller ending := by
  obtain ⟨hcome, slot, last, hfated, hends⟩ := h
  refine ⟨?_, slot, last, (hfated.passUntil hsound hagenda htime).1, hends⟩
  rwa [callers_passUntil]

end Settled

/-! ## All come before anything comes about

The induction over the batch. `answer` is what the round trips come to, by their keys; those that
are under way are told to keep to it (`Promises`), and those that are started are told by the
transport. -/

/-- The round trips of a dispatcher that are outstanding come to what `answer` says of their
keys. -/
def Promises (t : Timeline σ) (name : String) (answer : RequestKey → TripEnd) : Prop :=
  ∀ trip ∈ (t.dispatcher name).trips,
    ∃ f : Flight, f.dispatcher = name ∧ f.ending = answer trip.key ∧ Tracks t.agenda f trip

section Together

variable {α : Type} {transport : Transport σ} {t : Timeline σ} {flights : Flights σ}
  {name : String} {answer : RequestKey → TripEnd}

/-- The keys of the round trips that are outstanding at a dispatcher. Whoever asks for one of them
joins. -/
def outstandingKeys (t : Timeline σ) (name : String) : List RequestKey :=
  (t.dispatcher name).trips.map Trip.key

/-- Who asks and waits for a round trip ends with what it comes to. -/
theorem settled_asked {method : String} {params : List Json} {f : Flight} {trip : Trip}
    (hsound : t.AllSound) (habsent : Absent t t.callers)
    (htracks : Tracks (t.asked name method params).agenda f trip) (hname : f.dispatcher = name)
    (hwaiting : ((t.asked name method params).dispatcher name).waiting =
      (t.dispatcher name).waiting ++ [⟨t.callers, ⟨trip.slot⟩⟩]) :
    Settled (t.asked name method params) name t.callers (.outcome f.ending.outcome) := by
  refine ⟨?_, trip.slot, f.reply trip.slot, .waits ?_ ?_, rfl⟩
  · rw [callers_asked]
    exact Nat.lt_succ_self _
  · exact standing_asked_self name method params habsent.standing hwaiting
  · exact first_asked hsound habsent htracks hname

/-- Who has come is not concerned by those who come after it. -/
theorem Settled.callAll {caller : CallerId} {ending : Ending}
    (h : Settled t name caller ending) (hsound : t.AllSound) (place : String)
    (patience : Patience) (batch : Batch α) :
    Settled (t.callAll place patience batch).2 name caller ending := by
  induction batch generalizing t with
  | nil => exact h
  | cons op rest ih =>
    exact ih (h.act hsound (.call place op.method op.params patience) fun hdrop => by cases hdrop)
      (hsound.act (.call place op.method op.params patience))

section Asked

variable (hcarries : Carries transport t.agenda t.now t flights) (name : String)
  (op : Operation α)

include hcarries

/-- The next one joins, or it starts a round trip and the transport is asked. -/
theorem asked_account :
    (op.key ∈ t.outstandingKeys name ∧
      (t.asked name op.method op.params).outstandingKeys name = t.outstandingKeys name ∧
      (t.asked name op.method op.params).requests = t.requests ∧
      Carries transport (t.asked name op.method op.params).agenda
        (t.asked name op.method op.params).now (t.asked name op.method op.params) flights) ∨
    (op.key ∉ t.outstandingKeys name ∧
      (t.asked name op.method op.params).outstandingKeys name = t.outstandingKeys name ++ [op.key] ∧
      (t.asked name op.method op.params).requests = op.request :: t.requests ∧
      ∃ started, Carries transport (t.asked name op.method op.params).agenda
        (t.asked name op.method op.params).now (t.asked name op.method op.params)
        ⟨(transport.send flights.memory op.method op.params).2, started⟩) := by
  have hnow := t.now_asked name op.method op.params
  unfold outstandingKeys
  rcases hcarries.asked_cases name op.method op.params with
    ⟨trip, htrip, hkey, hdispatcher, hagenda, hasked⟩ | ⟨hnone, hdispatcher, -, -, hasked⟩
  · rw [hnow, hagenda, hdispatcher, hasked.requests_eq, ← hcarries.requests_eq]
    exact Or.inl ⟨List.mem_map.mpr ⟨trip, htrip, hkey⟩, rfl, rfl, hasked⟩
  · have hrequests := hasked.requests_eq
    rw [List.map_cons, ← hcarries.requests_eq] at hrequests
    rw [hnow, hdispatcher, hrequests]
    refine Or.inr ⟨fun hmem => ?_, List.map_append, rfl, _, hasked⟩
    obtain ⟨trip, htrip, hkey⟩ := List.mem_map.mp hmem
    exact hnone trip htrip hkey

/-- **What the next one ends with is settled when it has come**, and the round trips come to what
they promise. -/
theorem asked_settled (habsent : Absent t t.callers) (hpromises : Promises t name answer)
    (hanswer : op.key ∉ t.outstandingKeys name →
      answer op.key = (transport.send flights.memory op.method op.params).1.ending) :
    Promises (t.asked name op.method op.params) name answer ∧
    Settled (t.asked name op.method op.params) name t.callers
      (.outcome (answer op.key).outcome) := by
  rcases hcarries.asked_cases name op.method op.params with
    ⟨trip, htrip, hkey, hdispatcher, hagenda, -⟩ | ⟨hnone, hdispatcher, hagenda, htracks, -⟩
  · obtain ⟨f, hname, hending, hf⟩ := hpromises trip htrip
    refine ⟨?_, ?_⟩
    · unfold Promises
      rw [hagenda, hdispatcher]
      exact hpromises
    · have htracks : Tracks (t.asked name op.method op.params).agenda f trip := hagenda.symm ▸ hf
      have hself := settled_asked hcarries.sound habsent htracks hname
        (congrArg Dispatcher.waiting hdispatcher)
      rwa [hending, hkey] at hself
  · have hfresh := hanswer fun hmem => by
      obtain ⟨trip, htrip, hkey⟩ := List.mem_map.mp hmem
      exact hnone trip htrip hkey
    refine ⟨?_, ?_⟩
    · unfold Promises
      rw [hdispatcher]
      intro trip htrip
      rcases List.mem_append.mp htrip with htrip | htrip
      · obtain ⟨f, rfl, hending, hf⟩ := hpromises trip htrip
        rw [hagenda]
        exact ⟨f, rfl, hending, hcarries.tracks_old _ htrip hf⟩
      · obtain rfl := List.mem_singleton.mp htrip
        exact ⟨_, rfl, hfresh.symm, htracks⟩
    · rw [hfresh]
      exact settled_asked hcarries.sound habsent htracks rfl
        (congrArg Dispatcher.waiting hdispatcher)

end Asked

/-- **Of callers who come together it is settled what each ends with**, and what is requested.
`answer` is what the round trips come to: those that are outstanding already, and those that are
started now, by what the transport makes of their requests. -/
theorem callAll_settled (hreached : Reached transport t)
    (hcarries : Carries transport t.agenda t.now t flights) (hpromises : Promises t name answer)
    (batch : Batch α)
    (hanswer : (batch.starters (t.outstandingKeys name)).map (fun op => answer op.key) =
      (transport.replies flights.memory
        ((batch.starters (t.outstandingKeys name)).map Operation.request)).map (·.ending)) :
    Reached transport (t.callAll name .unlimited batch).2 ∧
    (t.callAll name .unlimited batch).2.requests =
      ((batch.starters (t.outstandingKeys name)).map Operation.request).reverse ++ t.requests ∧
    List.Forall₂ (fun caller op => Settled (t.callAll name .unlimited batch).2 name caller
      (.outcome (answer op.key).outcome)) (t.callAll name .unlimited batch).1 batch := by
  -- the outstanding round trips and the memory of the transport go along with the callers
  induction batch generalizing t flights with
  | nil => exact ⟨hreached, rfl, .nil⟩
  | cons op rest ih =>
    have hnext : Reached transport (t.asked name op.method op.params) :=
      hreached.act (.call name op.method op.params .unlimited)
    have hsettled := asked_settled hcarries name op (hreached.absent (Nat.le_refl _)) hpromises
    have hall : t.callAll name .unlimited (op :: rest) =
        (t.callers :: ((t.asked name op.method op.params).callAll name .unlimited rest).1,
          ((t.asked name op.method op.params).callAll name .unlimited rest).2) := rfl
    rw [hall]
    rcases asked_account hcarries name op with
      ⟨hmem, hkeys, hrequests, hasked⟩ | ⟨hmem, hkeys, hrequests, started, hasked⟩
    · obtain ⟨hpromised, hself⟩ := hsettled fun hnot => absurd hmem hnot
      rw [Batch.starters_of_mem hmem, ← hkeys] at hanswer ⊢
      obtain ⟨hlast, hmore, hrest⟩ := ih hnext hasked hpromised hanswer
      rw [hrequests] at hmore
      exact ⟨hlast, hmore, .cons (hself.callAll hasked.sound name .unlimited rest) hrest⟩
    · rw [Batch.starters_of_notMem hmem, ← hkeys] at hanswer ⊢
      obtain ⟨hfresh, hanswer⟩ := List.cons.inj hanswer
      obtain ⟨hpromised, hself⟩ := hsettled fun _ => hfresh
      obtain ⟨hlast, hmore, hrest⟩ := ih hnext hasked hpromised hanswer
      refine ⟨hlast, ?_, .cons (hself.callAll hasked.sound name .unlimited rest) hrest⟩
      rw [hmore, hrequests, List.map_cons, List.reverse_cons, List.append_assoc]
      rfl

end Together

end Timeline
end NodeRpc
