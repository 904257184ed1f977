import NodeRpc.CommandLine.Job
import NodeRpc.Proofs.Call.Batches

/-!
# A burst is one call

The callers of a burst come one after the other before anything comes about. The first takes the
flight of its key that has not landed, or starts one; the others find that flight and take it too
(`Offers`), each with a deadline of its own. When a flight lands and when a deadline is over is the
same for all of them, so all of them end alike (`Flight.endingAt`), and so would one who came alone
(`Reached.burst`).

The dispatcher may have any history and the transport is any: nothing is asked about how long its
round trips take or what they come to. A burst is the case that merging was made for, and what one
wants of it is that it cannot be told from a single call, by its results, by what it sends, or by
what it prints. So the theorem compares: all results of a burst are equal to the one that the same
call would have had alone, at that moment and in that history.

A burst of none is a call all the same. The number is rounded up to one before anything happens, and
the theorem says `max count 1` where a reader of the manual may expect `count`; what is logged has a
line only for a burst of more than one.

That all of them end at the same time does not need to be assumed of the clock. The deadlines are
set one after the other, but no time passes while the callers come, since nothing they do waits for
anything before all of them have come.
-/

namespace NodeRpc

/-- How long the callers of a burst wait: without a limit, or for a span of time that is found to
be over after so many milliseconds. -/
def Patience.upTo : Option (Duration × Nat) → Patience
  | none => .unlimited
  | some (limit, ticks) => .within limit ticks

/-- How one ends who takes a flight at a time. A flight that lands just when the span is found to
be over is in time, unless there was no time at all. -/
def Flight.endingAt (f : Flight) (time : Nat) : Option (Duration × Nat) → Ending
  | none => .outcome f.ending.outcome
  | some (limit, ticks) =>
    if ticks = 0 ∨ time + ticks < f.lands then .timedOut limit else .outcome f.ending.outcome

namespace Timeline

variable {σ α : Type}

/-! ## Taking a flight

To take a flight is to join the waiters of its entry in the table. The lemmas say that what callers
do to a dispatcher on the way does not take an offer back. -/

/-- Who asks a dispatcher for a key takes this flight: its round trip is outstanding. The slot of
the round trip is not named, since it does not matter to those who take the flight. -/
def Offers (t : Timeline σ) (name : String) (key : RequestKey) (f : Flight) : Prop :=
  f.dispatcher = name ∧ ∃ trip ∈ (t.dispatcher name).trips, trip.key = key ∧ Tracks t.agenda f trip

section Offers

variable {t : Timeline σ} {name : String} {key : RequestKey} {f : Flight}

theorem Offers.appoint (h : Offers t name key f) (time : Nat) (place : String)
    (caller : CallerId) (ending : Ending) :
    Offers (t.appoint ⟨time, .alarm place caller ending⟩) name key f := by
  obtain ⟨hname, trip, htrip, hkey, htracks⟩ := h
  exact ⟨hname, trip, htrip, hkey, htracks.schedule rfl⟩

theorem Offers.dismiss (h : Offers t name key f) (caller : CallerId) (ending : Ending) :
    Offers (t.dismiss name caller ending) name key f := by
  obtain ⟨hname, trip, htrip, hkey, htracks⟩ := h
  have hagenda : (t.dismiss name caller ending).agenda = t.agenda :=
    congrArg (·.2.2.2) (wire_dismiss t name caller ending)
  refine ⟨hname, trip, ?_, hkey, hagenda.symm ▸ htracks⟩
  rcases dispatcher_dismiss t name caller ending name with hsame | hleft
  · rwa [hsame]
  · rw [hleft]
    exact htrip

/-- How long a caller who asked waits is nothing to the flight. -/
theorem Offers.call {method : String} {params : List Json}
    (h : Offers (t.asked name method params) name key f) (timeout : Option (Duration × Nat)) :
    Offers (t.call name method params (.upTo timeout)).2 name key f := by
  rw [call_eq]
  match timeout with
  | none => exact h
  | some (limit, 0) => exact h.dismiss _ _
  | some (limit, ticks + 1) => exact h.appoint _ _ _ _

end Offers

/-! ## One caller after the other

One caller is settled when it has come: what it will end with is known from the flight it took. That
stays so whatever comes after it. -/

section Burst

variable {transport : Transport σ} {flights : Flights σ} {t : Timeline σ} {name : String}
  {f : Flight}

/-- **It is settled how one ends who asks and waits for a flight.** The deadline may be over at
once, or come before the flight lands or after it, or there may be none; `Flight.endingAt` is what
each of these comes to. -/
theorem settled_upTo {method : String} {params : List Json} {trip : Trip} (hsound : t.AllSound)
    (habsent : Absent t t.callers) (hagenda : InOrder (t.asked name method params).agenda)
    (htracks : Tracks (t.asked name method params).agenda f trip) (hname : f.dispatcher = name)
    (hwaiting : ((t.asked name method params).dispatcher name).waiting =
      (t.dispatcher name).waiting ++ [⟨t.callers, ⟨trip.slot⟩⟩])
    (timeout : Option (Duration × Nat)) :
    Settled (t.call name method params (.upTo timeout)).2 name t.callers
      (f.endingAt t.now timeout) := by
  have hwaits := standing_asked_self name method params habsent.standing hwaiting
  have hfirst := first_asked hsound habsent htracks hname
  refine ⟨(callers_call t name method params _).symm ▸ Nat.lt_succ_self _, trip.slot, ?_⟩
  rw [call_eq]
  match timeout with
  | none => exact ⟨f.reply trip.slot, .waits hwaits hfirst, rfl⟩
  | some (limit, 0) =>
    have hover := standing_dismiss_self hwaits (.timedOut limit)
    exact ⟨⟨(t.asked name method params).now, .alarm name t.callers (.timedOut limit)⟩,
      .finished hover (Nat.le_of_eq (now_dismiss _ _ _ _).symm), rfl⟩
  | some (limit, ticks + 1) =>
    -- the alarm is found first if it is due before the reply
    have hconcerns :
        (Coming.alarm name t.callers (.timedOut limit)).concerns name t.callers trip.slot = true :=
      Bool.and_eq_true_iff.mpr ⟨decide_eq_true rfl, decide_eq_true rfl⟩
    dsimp only [Patience.upTo]
    rw [now_asked]
    refine ⟨_, .waits hwaits
      ((find?_schedule_of_pos hagenda hconcerns).trans (by rw [hfirst])), ?_⟩
    have hrank : (Appointment.mk (t.now + (ticks + 1))
        (.alarm name t.callers (.timedOut limit))).rank < (f.reply trip.slot).rank ↔
        ticks + 1 = 0 ∨ t.now + (ticks + 1) < f.lands := by
      unfold Appointment.rank Flight.reply
      simp only [Coming.isAlarm, Bool.toNat_true, Bool.toNat_false]
      omega
    by_cases hlate : ticks + 1 = 0 ∨ t.now + (ticks + 1) < f.lands
    · rw [if_pos (hrank.mpr hlate)]
      exact (if_pos hlate).symm
    · rw [if_neg (mt hrank.mp hlate)]
      exact (if_neg hlate).symm

variable (op : Operation α) (timeout : Option (Duration × Nat))

/-- Who finds a flight of its key takes it, and nothing is requested. -/
theorem Carries.takes (hcarries : Carries transport t.agenda t.now t flights)
    (habsent : Absent t t.callers) (hoffers : Offers t name op.key f) :
    Carries transport (t.call name op.method op.params (.upTo timeout)).2.agenda t.now
        (t.call name op.method op.params (.upTo timeout)).2 flights ∧
      Offers (t.call name op.method op.params (.upTo timeout)).2 name op.key f ∧
      Settled (t.call name op.method op.params (.upTo timeout)).2 name t.callers
        (f.endingAt t.now timeout) := by
  obtain ⟨hname, trip, htrip, hkey, htracks⟩ := hoffers
  rcases hcarries.asked_cases name op.method op.params with
    ⟨joined, hjoined, hsame, hdispatcher, hagenda, hasked⟩ | ⟨hnone, -⟩
  · -- there is one round trip of a key
    obtain rfl : joined = trip :=
      List.inj_on_of_nodup_map (hcarries.sound name).keys_nodup hjoined htrip
        (hsame.trans hkey.symm)
    rw [← hagenda] at hasked htracks
    have hoffered : Offers (t.asked name op.method op.params) name op.key f :=
      ⟨hname, joined, hdispatcher.symm ▸ htrip, hkey, htracks⟩
    refine ⟨?_, hoffered.call timeout, ?_⟩
    · have hcall := hcarries.of_asked name op.method op.params hasked (.upTo timeout)
      rwa [ite_self] at hcall
    · exact settled_upTo hcarries.sound habsent hasked.inOrder htracks hname
        (congrArg Dispatcher.waiting hdispatcher) timeout
  · exact absurd hkey (hnone trip htrip)

variable (name) in
/-- **Whoever comes takes a flight**: one that it finds, and then nothing is requested, or one that
it starts with a request. -/
theorem Carries.boards (hcarries : Carries transport t.agenda t.now t flights)
    (habsent : Absent t t.callers) : ∃ f boarded,
    Carries transport (t.call name op.method op.params (.upTo timeout)).2.agenda t.now
        (t.call name op.method op.params (.upTo timeout)).2 boarded ∧
      Offers (t.call name op.method op.params (.upTo timeout)).2 name op.key f ∧
      Settled (t.call name op.method op.params (.upTo timeout)).2 name t.callers
        (f.endingAt t.now timeout) ∧
      (op.key ∈ t.outstandingKeys name ∧ boarded = flights ∨
        op.key ∉ t.outstandingKeys name ∧
          f = flights.fresh transport t.now name op.method op.params ∧
          boarded.started = f :: flights.started) := by
  rcases hcarries.asked_cases name op.method op.params with
    ⟨trip, htrip, hkey, -⟩ | ⟨hnone, hdispatcher, -, htracks, hasked⟩
  · obtain ⟨f, -, hname, htracks⟩ := hcarries.started name trip htrip
    obtain ⟨hcall, hoffered, hsettled⟩ := hcarries.takes op timeout habsent
      ⟨hname, trip, htrip, hkey, htracks⟩
    have hmem : op.key ∈ t.outstandingKeys name := List.mem_map.mpr ⟨trip, htrip, hkey⟩
    exact ⟨f, flights, hcall, hoffered, hsettled, Or.inl ⟨hmem, rfl⟩⟩
  · have hcall := hcarries.of_asked name op.method op.params hasked (.upTo timeout)
    have hasks : (Patience.upTo timeout).asks = true := by cases timeout <;> rfl
    rw [if_pos hasks] at hcall
    have hoffered : Offers (t.asked name op.method op.params) name op.key
        (flights.fresh transport t.now name op.method op.params) := by
      refine ⟨rfl, (t.dispatcher name).newTrip op.method op.params, ?_, rfl, htracks⟩
      rw [hdispatcher]
      exact List.mem_append_right _ (List.mem_singleton_self _)
    have hnot : op.key ∉ t.outstandingKeys name := by
      intro hmem
      obtain ⟨trip, htrip, hkey⟩ := List.mem_map.mp hmem
      exact hnone trip htrip hkey
    refine ⟨_, _, hcall, hoffered.call timeout, ?_, Or.inr ⟨hnot, rfl, rfl⟩⟩
    exact settled_upTo hcarries.sound habsent hasked.inOrder htracks rfl
      (congrArg Dispatcher.waiting hdispatcher) timeout

/-! ## All callers of a burst

The induction is on the number of callers, from those that are left: the first starts or finds a
flight, and from there on each finds the same. -/

theorem begin_cons (t : Timeline σ) (name : String) (patience : Patience) (op : Operation α)
    (rest : List (Batch α)) : t.begin name patience ([op] :: rest) =
      (⟨[op], [t.callers], none⟩ ::
        ((t.call name op.method op.params patience).2.begin name patience rest).1,
        ((t.call name op.method op.params patience).2.begin name patience rest).2) := rfl

/-- The callers of a burst are one after the other. -/
theorem callers_begin (t : Timeline σ) (name : String) (patience : Patience) (op : Operation α)
    (count : Nat) : (t.begin name patience (List.replicate count [op])).1.map (·.callers) =
      (List.range' t.callers count).map fun caller => [caller] := by
  induction count generalizing t with
  | zero => rfl
  | succ count ih =>
    rw [List.replicate_succ, begin_cons, List.map_cons, ih, callers_call, List.range'_succ]
    rfl

/-- **Those who find a flight of their key all take it**, and each is owed what it comes to for
those who take it now. -/
theorem begin_takes (hreached : Reached transport t)
    (hcarries : Carries transport t.agenda t.now t flights) (hoffers : Offers t name op.key f)
    (count : Nat) :
    let begun := t.begin name (.upTo timeout) (List.replicate count [op])
    Carries transport begun.2.agenda begun.2.now begun.2 flights ∧
      List.Forall₂ (Owed begun.2 name) begun.1
        (List.replicate count [(op, f.endingAt t.now timeout)]) ∧
      ∀ caller ending, Settled t name caller ending → Settled begun.2 name caller ending := by
  induction count generalizing t with
  | zero => exact ⟨hcarries, .nil, fun _ _ h => h⟩
  | succ count ih =>
    have hnow := now_call t name op.method op.params (.upTo timeout)
    obtain ⟨hcall, hoffered, hsettled⟩ :=
      hcarries.takes op timeout (hreached.absent (Nat.le_refl _)) hoffers
    have hnext : Reached transport (t.call name op.method op.params (.upTo timeout)).2 :=
      hreached.act (.call name op.method op.params (.upTo timeout))
    rw [← hnow] at hcall
    obtain ⟨hlast, howed, hkept⟩ := ih hnext hcall hoffered
    rw [hnow] at howed
    refine ⟨hlast, .cons (.waits rfl (.cons (hkept _ _ hsettled) .nil)) howed, ?_⟩
    intro caller ending h
    refine hkept caller ending (h.act hcarries.sound (.call name op.method op.params _) ?_)
    exact fun hdrop => by cases hdrop

/-- What a batch of one operation is worth to it. -/
theorem Gathers.eq_map_singleton {result : Except CallError α} {joined : Except CallError (List α)}
    (h : Gathers [result] joined) : joined = result.map fun value => [value] := by
  cases h with
  | @all values hvalues =>
    obtain ⟨value, rfl, rfl⟩ := List.map_eq_singleton_iff.mp hvalues.symm
    rfl
  | failed hmem =>
    obtain rfl := List.mem_singleton.mp hmem
    rfl

/-- Batches of one operation that have what they are owed, each the same. -/
theorem results_of_has {underway : List (Underway α)} {owed : Operation α × Ending} {count : Nat}
    (h : List.Forall₂ Has underway (List.replicate count [owed])) :
    underway.map (fun u => u.results.getD (.error (.trip .aborted))) =
      List.replicate count (Except.map (fun value => [value]) (Operation.resultOf owed)) := by
  induction count generalizing underway with
  | zero =>
    cases h
    rfl
  | succ count ih =>
    obtain ⟨u, rest, ⟨results, hresults, hgathers⟩, hrest, rfl⟩ :=
      List.forall₂_cons_right_iff.mp h
    rw [List.map_cons, ih hrest, hresults, List.replicate_succ]
    exact congrArg (· :: _) (Gathers.eq_map_singleton hgathers)

end Burst

/-- Callers of one operation come together, each for itself; there is always one. The results are in
the order in which they came. -/
def burst (t : Timeline σ) (name : String) (timeout : Option (Duration × Nat))
    (op : Operation α) (count : Nat) : List (Except CallError (List α)) × Timeline σ :=
  t.runAll name (.upTo timeout) (List.replicate (max count 1) [op])

/-- The flight that a request makes now. -/
def flightOf (t : Timeline σ) (name : String) (op : Operation α) : Flight :=
  let reply := (t.transport.send t.memory op.method op.params).1
  ⟨name, op.method, op.params, t.now, reply.delay, reply.ending⟩

/-- **All callers of a burst end alike**, whatever their number: as it is worth to those who take
one flight now. It is one that is outstanding, or it is the only one that they start. -/
theorem Reached.burst {transport : Transport σ} {t : Timeline σ} (h : Reached transport t)
    (name : String) (timeout : Option (Duration × Nat)) (op : Operation α) : ∃ f requests,
    (op.key ∈ t.outstandingKeys name ∧ requests = t.requests ∨
      op.key ∉ t.outstandingKeys name ∧ f = t.flightOf name op ∧
        requests = op.request :: t.requests) ∧
    ∀ count, (t.burst name timeout op count).2.requests = requests ∧
      (t.burst name timeout op count).1 = List.replicate (max count 1)
        (Except.map (fun value => [value])
          (Operation.resultOf (op, f.endingAt t.now timeout))) := by
  obtain ⟨flights, hcarries⟩ := h.carries
  obtain ⟨f, boarded, hcall, hoffered, hsettled, hstarted⟩ :=
    hcarries.boards name op timeout (h.absent (Nat.le_refl _))
  have hnext : Reached transport (t.call name op.method op.params (.upTo timeout)).2 :=
    h.act (.call name op.method op.params (.upTo timeout))
  have hnow := now_call t name op.method op.params (.upTo timeout)
  refine ⟨f, boarded.started.map fun f => (f.method, f.params), ?_, fun count => ?_⟩
  · rw [hcarries.requests_eq]
    rcases hstarted with ⟨hmem, rfl⟩ | ⟨hnot, rfl, hstarted⟩
    · exact Or.inl ⟨hmem, rfl⟩
    · refine Or.inr ⟨hnot, ?_, by rw [hstarted]; rfl⟩
      unfold flightOf
      rw [hcarries.transport_eq, hcarries.memory_eq]
      rfl
  · obtain ⟨more, hmore⟩ : ∃ more, max count 1 = more + 1 := ⟨max count 1 - 1, by omega⟩
    rw [← hnow] at hcall
    obtain ⟨hlast, howed, hkept⟩ := begin_takes op timeout hnext hcall hoffered more
    rw [hnow] at howed
    -- callers are numbered as they come, so no two of them are one
    have hapart : ((t.begin name (.upTo timeout) (List.replicate (more + 1) [op])).1.map
        (·.callers)).Pairwise List.Disjoint := by
      rw [callers_begin, List.pairwise_map]
      refine List.Pairwise.imp (fun hne => ?_) List.nodup_range'
      exact List.disjoint_singleton.mpr fun hmem => hne (List.mem_singleton.mp hmem).symm
    have hall : List.Forall₂
        (Owed (t.begin name (.upTo timeout) (List.replicate (more + 1) [op])).2 name)
        (t.begin name (.upTo timeout) (List.replicate (more + 1) [op])).1
        (List.replicate (more + 1) [(op, f.endingAt t.now timeout)]) :=
      .cons (.waits rfl (.cons (hkept _ _ hsettled) .nil)) howed
    obtain ⟨hhas, hquiet⟩ := await_gathers ⟨hlast, hall, hapart⟩ (Nat.lt_succ_self _)
    unfold Timeline.burst runAll
    rw [hmore]
    exact ⟨hquiet.trans hlast.requests_eq, results_of_has hhas⟩

end Timeline

namespace CommandLine

/-- The deadline of a job, with the number of milliseconds after which it is found to be over. -/
def Job.timeout (job : Job) : Option (Duration × Nat) :=
  job.limit.map fun seconds =>
    let limit := Duration.ofSeconds seconds.toNat
    (limit, limit.ticks + 1)

/-- The calls of a job are a burst at a dispatcher of its own. -/
theorem Job.results_eq_burst (job : Job) (arrival : Arrival) : job.results arrival =
    ((Timeline.start (job.config.transport fun () _ => (arrival, ())) ()).burst "node" job.timeout
      job.operation (job.burst.getD 1)).1 := by
  have hpatience : job.patience = .upTo job.timeout := by
    unfold Job.patience Job.timeout
    cases job.limit with
    | none => rfl
    | some seconds => rfl
  unfold Job.results
  rw [hpatience]
  rfl

/-- All calls of a job end alike, and however many there are, they end as the one call would. -/
theorem Job.results_eq_replicate (job : Job) (arrival : Arrival) : ∃ ending : Ending, ∀ burst,
    { job with burst }.results arrival = List.replicate (max (burst.getD 1) 1)
      ((ending.result job.operation.method job.operation.read).map fun value => [value]) := by
  have hstart : Timeline.Reached (job.config.transport fun () _ => (arrival, ()))
      (.start (job.config.transport fun () _ => (arrival, ())) ()) := .start ()
  obtain ⟨f, requests, -, hrun⟩ := hstart.burst "node" job.timeout job.operation
  exact ⟨f.endingAt 0 job.timeout, fun burst =>
    (Job.results_eq_burst { job with burst } arrival).trans (hrun _).2⟩

/-- What is printed about the result of a call. -/
def shown (url : String) : Except CallError Json → Except Failure String
  | .ok value => .ok (value.pretty ++ "\n")
  | .error error => .error (.ofCall url error)

theorem countP_isOk_replicate {α : Type} (count : Nat) (result : Except CallError α) :
    (List.replicate count (result.map fun value => [value])).countP (·.isOk) =
      if result.isOk then count else 0 := by
  rw [List.countP_replicate]
  cases result with
  | ok value => rfl
  | error error => rfl

/-- What a bare call prints and logs when all of its callers have the same result. -/
theorem Job.run_of_results {job : Job} {count : Nat} {arrival : Arrival}
    {result : Except CallError Json}
    (h : { job with burst := some count }.results arrival =
      List.replicate (max count 1) (result.map fun value => [value])) :
    let run := { job with burst := some count }.run arrival
    run.result = shown job.config.connection result ∧
    run.log = if 1 < count then
        [burstFinished job.operation.method (max count 1)
          (if result.isOk then max count 1 else 0)]
      else [] := by
  unfold Job.run
  rw [h]
  constructor
  · obtain ⟨more, hmore⟩ : ∃ more, max count 1 = more + 1 := ⟨max count 1 - 1, by omega⟩
    rw [hmore, List.replicate_succ]
    cases result with
    | ok value => rfl
    | error error => rfl
  · unfold Job.log
    dsimp only
    rw [List.length_replicate, countP_isOk_replicate]

/-- **A burst is one call.** Callers of one operation come together to a dispatcher with any
history, each waiting without a limit or for the same span; the round trip may take any time and
come to anything. However many they are, all end with the result that one alone would end with, and
at most one request is sent for all of them, as for the one. So all succeed or none does. The result
is what the operation reads from the outcome of the round trip, or that the span was over before.

What a bare call prints therefore does not depend on how often it is asked, and what it logs says
that all calls or none of them succeeded. -/
theorem burst_is_one_call {σ α : Type} {transport : Transport σ} {t : Timeline σ}
    (h : Timeline.Reached transport t) (name : String) (timeout : Option (Duration × Nat))
    (op : Operation α) :
    (∃ (result : Except CallError α) (requests : List (String × List Json)),
      (requests = t.requests ∨ requests = op.request :: t.requests) ∧
      (∀ count, let run := t.burst name timeout op count
        run.1 = List.replicate (max count 1) (result.map fun value => [value]) ∧
        run.1.countP (·.isOk) = (if result.isOk then max count 1 else 0) ∧
        run.2.requests = requests) ∧
      (op.key ∉ t.outstandingKeys name →
        let reply := (t.transport.send t.memory op.method op.params).1
        requests = op.request :: t.requests ∧
        result =
          match timeout with
          | none => op.read reply.ending.outcome
          | some (limit, ticks) =>
            if ticks = 0 ∨ ticks < reply.delay then .error (.timedOut op.method limit)
            else op.read reply.ending.outcome)) ∧
    ∀ (job : Job) (arrival : Arrival), ∃ result : Except CallError Json, ∀ count,
      let run := { job with burst := some count }.run arrival
      run.result = shown job.config.connection result ∧
      run.log = if 1 < count then
          [burstFinished job.operation.method (max count 1)
            (if result.isOk then max count 1 else 0)]
        else [] := by
  constructor
  · obtain ⟨f, requests, hflight, hrun⟩ := h.burst name timeout op
    refine ⟨Operation.resultOf (op, f.endingAt t.now timeout), requests, ?_, fun count => ?_,
      fun hnot => ?_⟩
    · rcases hflight with ⟨-, hsame⟩ | ⟨-, -, hmore⟩
      · exact Or.inl hsame
      · exact Or.inr hmore
    · obtain ⟨hrequests, hresults⟩ := hrun count
      exact ⟨hresults, hresults ▸ countP_isOk_replicate _ _, hrequests⟩
    · rcases hflight with ⟨hmem, -⟩ | ⟨-, rfl, hmore⟩
      · exact absurd hmem hnot
      · refine ⟨hmore, ?_⟩
        match timeout with
        | none => rfl
        | some (limit, ticks) =>
          have hlate : t.now + ticks < (t.flightOf name op).lands ↔
              ticks < (t.transport.send t.memory op.method op.params).1.delay :=
            Nat.add_lt_add_iff_left
          -- a new flight lands a delay from now, so the limit is compared with the delay
          unfold Flight.endingAt Operation.resultOf
          simp only [hlate]
          split
          · rfl
          · rfl
  · intro job arrival
    obtain ⟨ending, hresults⟩ := job.results_eq_replicate arrival
    exact ⟨ending.result job.operation.method job.operation.read, fun count =>
      Job.run_of_results (hresults (some count))⟩

/-- The round trip takes ten milliseconds. Three callers who wait for four all run out of time, as
one does, and three who wait for twenty all have the answer, for one request. -/
theorem burst_is_one_call_tenMillis :
    let run := fun ticks => (Timeline.start Transport.scripted Timeline.tenMillis).burst "node"
      (some (.ofMillis ticks, ticks)) (Operation.tell "getinfo" [])
    (run 4 3).1 = List.replicate 3 (.error (.timedOut "getinfo" (.ofMillis 4))) ∧
    (run 4 0).1 = [.error (.timedOut "getinfo" (.ofMillis 4))] ∧
    (run 20 3).1 = List.replicate 3 (.ok [()]) ∧
    (run 20 3).2.requests = [("getinfo", [])] := by
  obtain ⟨⟨result, requests, -, hrun, hfresh⟩, -⟩ :=
    burst_is_one_call (.start Timeline.tenMillis) "node" (some (.ofMillis 4, 4))
      (.tell "getinfo" [])
  obtain ⟨⟨result', requests', -, hrun', hfresh'⟩, -⟩ :=
    burst_is_one_call (.start Timeline.tenMillis) "node" (some (.ofMillis 20, 20))
      (.tell "getinfo" [])
  obtain ⟨rfl, rfl⟩ := hfresh List.not_mem_nil
  obtain ⟨rfl, rfl⟩ := hfresh' List.not_mem_nil
  exact ⟨(hrun 3).1, (hrun 0).1, (hrun' 3).1, (hrun' 3).2.2⟩

end CommandLine
end NodeRpc
