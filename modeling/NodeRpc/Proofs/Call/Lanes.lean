import NodeRpc.Proofs.Call.WriteOnce
import Mathlib.Logic.Function.Basic

/-!
# A lane for each key

Those who use a table know its slots by what they were given: the read side of the first one who
asked for a key, the publisher of the third. In these words what is done to a table is a list of
keys with acts (`Session.run`), and it does not matter which numbers the slots have.

That keys do not interfere sounds like an equation between two runs of a table, one with the acts
under other keys and one without. As an equation between states it is false. Slots are numbered in
the order in which rounds begin, so leaving out a round of one key renumbers those of another, and
swapping two of them swaps their numbers. What is true is true of what users can see, and so users
have to be modelled first: they hold handles, name them by key and by who asked, and get answers in
which no number occurs.

What happens under one key is a machine of its own that knows no other keys and no slots (`Lane`):
what the rounds that are over came to, who is to settle the one that is not, and the round that each
of those took part in who asked. It is small enough to be read as the meaning of a key. A session is
one lane for each key with names for their rounds (`Session.Shows`), whatever is done
(`Session.Shows.perform`).

The names are the only thing that ties lanes together, and `Files` is where they live. Two rounds
have different names, every slot is the name of a round, and everything else in the table is said of
the round through its name.
-/

namespace NodeRpc

/-- Something that is done under a key. Those who asked for the key are numbered in the order in
which they asked, so an act can be repeated in another run where the handles have other slots. -/
inductive Act where
  | acquire
  | publish (nth : Nat) (outcome : Outcome)
  | dropPublisher (nth : Nat)
  | tryGet (nth : Nat)
  | wait (nth : Nat)
  /-- Compares what two of them have got. -/
  | same (nth other : Nat)
  | dropPending (nth : Nat)

/-- What is seen of it. -/
inductive Answer where
  /-- A round was begun, or joined. -/
  | role (owner : Bool)
  | done
  /-- An outcome, or that there is none yet. -/
  | shows (outcome? : Option Outcome)
  /-- Whether it is one and the same outcome. -/
  | shares (same : Bool)
  /-- What this would take was not given, or was given away. -/
  | missing

/-- What one who asked for a key holds: a read side until it is dropped, and an owner a publisher
until it is used. -/
structure Hand where
  pending? : Option Pending
  publisher? : Option Publisher

/-- A table with those who use it. What they hold is kept by key, in the order in which they asked,
so that it can be named without the numbers of slots. -/
structure Session where
  coalescer : Coalescer := .empty
  /-- What those hold who asked for a key, in the order in which they asked. -/
  hands : RequestKey → List Hand := fun _ => []

namespace Session

def pending? (s : Session) (key : RequestKey) (nth : Nat) : Option Pending :=
  (s.hands key)[nth]?.bind (·.pending?)

def publisher? (s : Session) (key : RequestKey) (nth : Nat) : Option Publisher :=
  (s.hands key)[nth]?.bind (·.publisher?)

/-- What one holds changes. -/
def changeHand (s : Session) (key : RequestKey) (nth : Nat) (change : Hand → Hand) : Session :=
  { s with hands := Function.update s.hands key ((s.hands key).modify nth change) }

/-- Looks at an outcome. -/
def look (s : Session) (key : RequestKey) (nth : Nat) (see : Pending → Answer) : Answer :=
  (s.pending? key nth).elim .missing see

/-- Uses a publisher, which is spent then. -/
def spend (s : Session) (key : RequestKey) (nth : Nat) (use : Publisher → Coalescer) :
    Session × Answer :=
  match s.publisher? key nth with
  | some publisher =>
    ({ s with coalescer := use publisher }.changeHand key nth ({ · with publisher? := none }),
      .done)
  | none => (s, .missing)

def acquire (s : Session) (key : RequestKey) : Session × Answer :=
  let (acquired, coalescer) := s.coalescer.acquire key
  ({ coalescer
     hands := Function.update s.hands key
      (s.hands key ++ [⟨some acquired.pending, acquired.publisher?⟩]) },
    .role acquired.publisher?.isSome)

def perform (s : Session) (key : RequestKey) : Act → Session × Answer
  | .acquire => s.acquire key
  | .publish nth outcome => s.spend key nth (s.coalescer.publish · outcome)
  | .dropPublisher nth => s.spend key nth s.coalescer.dropPublisher
  | .tryGet nth => (s, s.look key nth fun p => .shows ((s.coalescer.tryGet p).map (·.outcome)))
  | .wait nth => (s, s.look key nth fun p => .shows (s.coalescer.wait p).outcome?)
  | .same nth other =>
    (s, s.look key nth fun p => s.look key other fun q => .shares (s.coalescer.same p q))
  | .dropPending nth =>
    (s.changeHand key nth ({ · with pending? := none }), s.look key nth fun _ => .done)

/-- Does one thing after the other, each under its key. -/
def run (s : Session) : List (RequestKey × Act) → Session × List (RequestKey × Answer)
  | [] => (s, [])
  | (key, act) :: rest =>
    let (next, answer) := s.perform key act
    let (last, answers) := next.run rest
    (last, (key, answer) :: answers)

end Session

/-! ## What happens under one key

The machine for one key, with the invariant that its tickets are for rounds that were begun. Nothing
in it refers to a table. -/

/-- The round that one took part in who asked for a key. Rounds are counted for each key from
zero. -/
structure Ticket where
  round : Nat
  /-- Whether the read side was not dropped. -/
  held : Bool

/-- The round that can be looked at with it. -/
def Ticket.round? (t : Ticket) : Option Nat := if t.held then some t.round else none

/-- What happened under a key. There is no slot in it and nothing of other keys, and still it has
all that is needed to say what comes next under its own. -/
structure Lane where
  /-- What the rounds that are over came to. -/
  settled : List Outcome := []
  /-- Who is to settle the round that is not over, if there is one. -/
  owner? : Option Nat := none
  tickets : List Ticket := []

namespace Lane

/-- How many rounds were begun. -/
def rounds (l : Lane) : Nat := l.settled.length + l.owner?.isSome.toNat

def look (l : Lane) (nth : Nat) (see : Nat → Answer) : Answer :=
  (l.tickets[nth]?.bind (·.round?)).elim .missing see

/-- Settles the round that is not over, if this one is to do it. -/
def settle (l : Lane) (nth : Nat) (outcome : Outcome) : Lane × Answer :=
  if l.owner? = some nth then
    ({ l with settled := l.settled ++ [outcome], owner? := none }, .done)
  else (l, .missing)

/-- The lane after somebody took part in the round that is not over. -/
def joined (l : Lane) : Lane := { l with tickets := l.tickets ++ [⟨l.settled.length, true⟩] }

/-- The lane after somebody began a round. -/
def began (l : Lane) : Lane := { l.joined with owner? := some l.tickets.length }

def acquire (l : Lane) : Lane × Answer :=
  match l.owner? with
  | some _ => (l.joined, .role false)
  | none => (l.began, .role true)

def perform (l : Lane) : Act → Lane × Answer
  | .acquire => l.acquire
  | .publish nth outcome => l.settle nth outcome
  | .dropPublisher nth => l.settle nth (.error .aborted)
  | .tryGet nth => (l, l.look nth fun round => .shows l.settled[round]?)
  | .wait nth => (l, l.look nth fun round => .shows l.settled[round]?)
  | .same nth other =>
    (l, l.look nth fun a => l.look other fun b => .shares (b = a && l.settled[a]?.isSome))
  | .dropPending nth =>
    ({ l with tickets := l.tickets.modify nth ({ · with held := false }) },
      l.look nth fun _ => .done)

def run (l : Lane) : List Act → Lane × List Answer
  | [] => (l, [])
  | act :: rest =>
    let (next, answer) := l.perform act
    let (last, answers) := next.run rest
    (last, answer :: answers)

theorem rounds_of_isSome {l : Lane} (h : l.owner?.isSome = true) :
    l.rounds = l.settled.length + 1 := by
  unfold rounds
  rw [h]
  rfl

theorem rounds_of_isNone {l : Lane} (h : l.owner? = none) : l.rounds = l.settled.length := by
  unfold rounds
  rw [h]
  rfl

theorem acquire_of_some {l : Lane} {owner : Nat} (h : l.owner? = some owner) :
    l.acquire = (l.joined, .role false) := by
  unfold acquire
  rw [h]

theorem acquire_of_none {l : Lane} (h : l.owner? = none) : l.acquire = (l.began, .role true) := by
  unfold acquire
  rw [h]

/-- The owner has a ticket for the round that is not over, and every ticket is for a round. Both are
kept by whatever is done. -/
structure Sound (l : Lane) : Prop where
  owner : ∀ nth, l.owner? = some nth → ∃ ticket, l.tickets[nth]? = some ticket ∧
    ticket.round = l.settled.length
  round_lt : ∀ ticket ∈ l.tickets, ticket.round < l.rounds

theorem sound_empty : Sound {} where
  owner _ h := by cases h
  round_lt _ h := by cases h

section Sound

variable {l : Lane} (h : l.Sound)

include h

theorem Sound.owner_lt {nth : Nat} (howner : l.owner? = some nth) : nth < l.tickets.length := by
  obtain ⟨ticket, hticket, -⟩ := h.owner nth howner
  exact (List.getElem?_eq_some_iff.mp hticket).1

theorem Sound.joined {owner : Nat} (howner : l.owner? = some owner) : l.joined.Sound := by
  refine ⟨fun nth hnth => ?_, fun ticket hticket => ?_⟩
  · obtain ⟨ticket, hticket, hround⟩ := h.owner nth hnth
    exact ⟨ticket, (List.getElem?_append_left (h.owner_lt hnth)).trans hticket, hround⟩
  · rcases List.mem_append.mp hticket with hticket | hticket
    · exact h.round_lt ticket hticket
    · have hrounds : l.joined.rounds = l.settled.length + 1 :=
        rounds_of_isSome (l := l.joined) (Option.isSome_of_eq_some howner)
      rw [List.mem_singleton.mp hticket, hrounds]
      exact Nat.lt_succ_self _

theorem Sound.began (hidle : l.owner? = none) : l.began.Sound := by
  refine ⟨fun nth hnth => ?_, fun ticket hticket => ?_⟩
  · obtain rfl := Option.some.inj hnth
    exact ⟨_, List.getElem?_concat_length, rfl⟩
  · have hrounds : l.began.rounds = l.settled.length + 1 := rounds_of_isSome (l := l.began) rfl
    rw [hrounds]
    rcases List.mem_append.mp hticket with hticket | hticket
    · have hround := h.round_lt ticket hticket
      rw [rounds_of_isNone hidle] at hround
      exact Nat.lt_succ_of_lt hround
    · rw [List.mem_singleton.mp hticket]
      exact Nat.lt_succ_self _

theorem Sound.settle (nth : Nat) (outcome : Outcome) : (l.settle nth outcome).1.Sound := by
  unfold Lane.settle
  split
  · rename_i howner
    refine ⟨fun _ hnone => (Option.some_ne_none _ hnone.symm).elim, fun ticket hticket => ?_⟩
    have hround := h.round_lt ticket hticket
    rw [rounds_of_isSome (by rw [howner]; rfl)] at hround
    rwa [rounds_of_isNone rfl, List.length_append]
  · exact h

/-- Whatever is done, owners and those who joined have a round. -/
theorem Sound.perform (act : Act) : (l.perform act).1.Sound := by
  cases act with
  | acquire =>
    show l.acquire.1.Sound
    unfold Lane.acquire
    split
    · rename_i howner
      exact h.joined howner
    · rename_i hidle
      exact h.began hidle
  | publish nth outcome => exact h.settle nth outcome
  | dropPublisher nth => exact h.settle nth _
  | tryGet nth => exact h
  | wait nth => exact h
  | same nth other => exact h
  | dropPending nth =>
    refine ⟨fun owner howner => ?_, fun ticket hticket => ?_⟩
    · obtain ⟨ticket, hticket, hround⟩ := h.owner owner howner
      refine ⟨_, (List.getElem?_modify _ nth l.tickets owner).trans
        (congrArg (Functor.map _) hticket), ?_⟩
      show (if nth = owner then { ticket with held := false } else ticket).round = _
      split
      · exact hround
      · exact hround
    · obtain ⟨i, hi⟩ := List.mem_iff_getElem?.mp hticket
      have hmodified := (List.getElem?_modify _ nth l.tickets i).symm.trans hi
      obtain ⟨old, hold, rfl⟩ := Option.map_eq_some_iff.mp hmodified
      show (if nth = i then { old with held := false } else old).round < l.rounds
      have hround := h.round_lt old (List.mem_of_getElem? hold)
      split
      · exact hround
      · exact hround

theorem Sound.look_congr {see see' : Nat → Answer} (hsee : ∀ round < l.rounds,
    see round = see' round) (nth : Nat) : l.look nth see = l.look nth see' := by
  unfold look
  cases hticket : l.tickets[nth]? with
  | none => rfl
  | some ticket =>
    have hround := hsee ticket.round (h.round_lt ticket (List.mem_of_getElem? hticket))
    show ticket.round?.elim .missing see = ticket.round?.elim .missing see'
    unfold Ticket.round?
    split
    · exact hround
    · rfl

end Sound
end Lane

/-! ## The table of the lanes

How a table holds all lanes at once. A round that is begun gets a name that no other round has; a
round that is settled is settled in the one slot of its name. -/

/-- A table holds the rounds of lanes, in the slots by which they are named. That the names are one
to one, and that no slot is without one, is what lets every other clause be about one round of one
key. -/
structure Files (names : RequestKey → Nat → Nat) (lanes : RequestKey → Lane) (c : Coalescer) :
    Prop where
  sound : c.Sound
  numbered : c.Numbered
  slot_lt : ∀ key round, round < (lanes key).rounds → names key round < c.slots.size
  inj : ∀ key round key' round', round < (lanes key).rounds → round' < (lanes key').rounds →
    names key round = names key' round' → key = key' ∧ round = round'
  onto : ∀ slot < c.slots.size, ∃ key round, round < (lanes key).rounds ∧ names key round = slot
  outcome : ∀ key round, round < (lanes key).rounds →
    (c.tryGet ⟨names key round⟩).map (·.outcome) = (lanes key).settled[round]?
  /-- The publishers left are those of the rounds that are not over. -/
  publisher_iff : ∀ key slot, ⟨key, slot⟩ ∈ c.publishers ↔
    (lanes key).owner?.isSome ∧ slot = names key (lanes key).settled.length

section Files

variable {names : RequestKey → Nat → Nat} {lanes : RequestKey → Lane} {c : Coalescer}

theorem files_empty (names : RequestKey → Nat → Nat) : Files names (fun _ => {}) .empty where
  sound := Coalescer.sound_empty
  numbered := Coalescer.numbered_empty
  slot_lt _ _ h := absurd h (Nat.not_lt_zero _)
  inj _ _ _ _ h := absurd h (Nat.not_lt_zero _)
  onto _ h := absurd h (Nat.not_lt_zero _)
  outcome _ _ h := absurd h (Nat.not_lt_zero _)
  publisher_iff _ _ := iff_of_false List.not_mem_nil fun h => Bool.false_ne_true h.1

/-- The tickets are nothing to the table, nor who it is that is to settle a round. -/
theorem Files.update (h : Files names lanes c) {key : RequestKey} {lane : Lane}
    (hsettled : lane.settled = (lanes key).settled)
    (howner : lane.owner?.isSome = (lanes key).owner?.isSome) :
    Files names (Function.update lanes key lane) c := by
  have hsettled' : ∀ other,
      (Function.update lanes key lane other).settled = (lanes other).settled := by
    intro other
    by_cases hother : other = key
    · rw [hother, Function.update_self, hsettled]
    · rw [Function.update_of_ne hother]
  have howner' : ∀ other,
      (Function.update lanes key lane other).owner?.isSome = (lanes other).owner?.isSome := by
    intro other
    by_cases hother : other = key
    · rw [hother, Function.update_self, howner]
    · rw [Function.update_of_ne hother]
  have hrounds : ∀ other, (Function.update lanes key lane other).rounds = (lanes other).rounds :=
    fun other => congrArg₂ (fun settled owner => List.length settled + Bool.toNat owner)
      (hsettled' other) (howner' other)
  refine ⟨h.sound, h.numbered, ?_, ?_, ?_, ?_, ?_⟩
  all_goals simp only [hrounds, hsettled', howner']
  · exact h.slot_lt
  · exact h.inj
  · exact h.onto
  · exact h.outcome
  · exact h.publisher_iff

/-- The names with one for a round of a key. -/
def nameRound (names : RequestKey → Nat → Nat) (key : RequestKey) (round slot : Nat) :
    RequestKey → Nat → Nat :=
  fun other r => if other = key ∧ r = round then slot else names other r

theorem nameRound_self (names : RequestKey → Nat → Nat) (key : RequestKey) (round slot : Nat) :
    nameRound names key round slot key round = slot := if_pos ⟨rfl, rfl⟩

theorem nameRound_of_key_ne {key other : RequestKey} (h : other ≠ key)
    (names : RequestKey → Nat → Nat) (round slot : Nat) :
    nameRound names key round slot other = names other :=
  funext fun _ => if_neg fun hboth => h hboth.1

section Begun

variable {key : RequestKey} {lane : Lane} (hidle : (lanes key).owner? = none)
  (hsettled : lane.settled = (lanes key).settled)

include hidle hsettled

/-- The names that there were are kept. -/
theorem nameRound_of_lt {other : RequestKey} {round : Nat} (hround : round < (lanes other).rounds)
    (slot : Nat) : nameRound names key lane.settled.length slot other round =
      names other round := by
  refine if_neg ?_
  rintro ⟨rfl, rfl⟩
  rw [Lane.rounds_of_isNone hidle, hsettled] at hround
  exact Nat.lt_irrefl _ hround

/-- The rounds are those that there were, and the new one. -/
theorem lt_rounds_update_iff (howner : lane.owner?.isSome = true) (other : RequestKey)
    (round : Nat) : round < (Function.update lanes key lane other).rounds ↔
      (other = key ∧ round = lane.settled.length) ∨ round < (lanes other).rounds := by
  by_cases hother : other = key
  · subst hother
    rw [Function.update_self, Lane.rounds_of_isSome howner, Lane.rounds_of_isNone hidle, ← hsettled,
      Nat.lt_succ_iff_lt_or_eq, or_comm]
    exact or_congr_left (and_iff_right rfl).symm
  · rw [Function.update_of_ne hother]
    exact (or_iff_right fun hboth => hother hboth.1).symm

/-- **A round is begun in a new slot.** The number of the slot depends on what was done under other
keys, and this is the only thing that does; `names` keeps which slot belongs to which round of which
key. -/
theorem Files.begun (h : Files names lanes c) (hacq : (c.acquire key).2 = c.begun key)
    (howner : lane.owner?.isSome = true) :
    Files (nameRound names key lane.settled.length c.slots.size) (Function.update lanes key lane)
      (c.begun key) := by
  have hrounds := lt_rounds_update_iff hidle hsettled howner
  have hold : ∀ {other : RequestKey} {round : Nat}, round < (lanes other).rounds →
      nameRound names key lane.settled.length c.slots.size other round = names other round :=
    fun hround => nameRound_of_lt hidle hsettled hround _
  have hnew := nameRound_self names key lane.settled.length c.slots.size
  have hsize : (c.begun key).slots.size = c.slots.size + 1 := Array.size_push none
  have hget : ∀ pending, (c.begun key).tryGet pending = c.tryGet pending :=
    fun pending => hacq ▸ h.sound.tryGet_acquire key pending
  -- a round that was there keeps its slot and the new one has the last; each part is these two
  -- cases
  refine ⟨hacq ▸ h.sound.acquire key, hacq ▸ h.numbered.apply h.sound (.acquire key),
    ?_, ?_, ?_, ?_, ?_⟩
  · intro other round hround
    rw [hsize]
    rcases (hrounds other round).mp hround with ⟨rfl, rfl⟩ | hround
    · rw [hnew]
      exact Nat.lt_succ_self _
    · rw [hold hround]
      exact Nat.lt_succ_of_lt (h.slot_lt other round hround)
  · -- the new slot is not the name of any other round
    intro k r k' r' hr hr' heq
    rcases (hrounds k r).mp hr with ⟨rfl, rfl⟩ | hlt
    · rcases (hrounds k' r').mp hr' with ⟨rfl, rfl⟩ | hlt'
      · exact ⟨rfl, rfl⟩
      · rw [hnew, hold hlt'] at heq
        exact absurd heq (Nat.ne_of_gt (h.slot_lt k' r' hlt'))
    · rcases (hrounds k' r').mp hr' with ⟨rfl, rfl⟩ | hlt'
      · rw [hnew, hold hlt] at heq
        exact absurd heq (Nat.ne_of_lt (h.slot_lt k r hlt))
      · rw [hold hlt, hold hlt'] at heq
        exact h.inj k r k' r' hlt hlt' heq
  · intro slot hslot
    rcases Nat.lt_succ_iff_lt_or_eq.mp (hsize ▸ hslot) with hslot | rfl
    · obtain ⟨other, round, hround, rfl⟩ := h.onto slot hslot
      exact ⟨other, round, (hrounds other round).mpr (Or.inr hround), hold hround⟩
    · exact ⟨key, _, (hrounds key _).mpr (Or.inl ⟨rfl, rfl⟩), hnew⟩
  · intro other round hround
    rw [hget]
    rcases (hrounds other round).mp hround with ⟨rfl, rfl⟩ | hround
    · have hempty : c.tryGet ⟨c.slots.size⟩ = none := by
        unfold Coalescer.tryGet
        rw [Array.getElem?_size]
        rfl
      rw [hnew, hempty, Function.update_self, List.getElem?_length]
      rfl
    · rw [hold hround, h.outcome other round hround]
      by_cases hother : other = key
      · rw [hother, Function.update_self, hsettled]
      · rw [Function.update_of_ne hother]
  · intro other slot
    show (⟨other, slot⟩ : Publisher) ∈ ⟨key, c.slots.size⟩ :: c.publishers ↔ _
    rw [List.mem_cons, h.publisher_iff, Publisher.mk.injEq]
    by_cases hother : other = key
    · subst hother
      rw [Function.update_self, hidle, howner, hnew]
      simp
    · rw [Function.update_of_ne hother, nameRound_of_key_ne hother]
      simp [hother]

end Begun

/-- **The round of a key is settled**, and that of no other key. The publisher removes its key from
the table, so it matters that the entry found there is the one of its own round. -/
theorem Files.settle (h : Files names lanes c) {key : RequestKey} (lane : Lane)
    (howner : (lanes key).owner?.isSome = true) (outcome : Outcome)
    (hsettled : lane.settled = (lanes key).settled ++ [outcome]) (hidle : lane.owner? = none) :
    Files names (Function.update lanes key lane)
      (c.publish ⟨key, names key (lanes key).settled.length⟩ outcome) := by
  have hp := (h.publisher_iff key _).mpr ⟨howner, rfl⟩
  have hrounds : ∀ other, (Function.update lanes key lane other).rounds = (lanes other).rounds := by
    intro other
    by_cases hother : other = key
    · subst hother
      rw [Function.update_self, Lane.rounds_of_isNone hidle, Lane.rounds_of_isSome howner,
        hsettled, List.length_append]
      rfl
    · rw [Function.update_of_ne hother]
  have hlast : (lanes key).settled.length < (lanes key).rounds := by
    rw [Lane.rounds_of_isSome howner]
    exact Nat.lt_succ_self _
  have hsize : (c.publish ⟨key, names key (lanes key).settled.length⟩ outcome).slots.size =
      c.slots.size := by
    rw [Coalescer.publish_of_mem hp]
    exact Array.size_setIfInBounds
  -- no slot comes or goes, so what is said of slots and rounds alone stays as it is
  refine ⟨h.sound.publish _ outcome, h.numbered.publish h.sound _ outcome, ?_, ?_, ?_, ?_, ?_⟩
  · simpa only [hrounds, hsize] using h.slot_lt
  · simpa only [hrounds] using h.inj
  · simpa only [hrounds, hsize] using h.onto
  · intro other round hround
    rw [hrounds] at hround
    rw [h.sound.tryGet_publish hp, apply_ite (Option.map _), h.outcome other round hround]
    by_cases hother : other = key
    · subst hother
      rw [Function.update_self, hsettled]
      by_cases hround' : round = (lanes other).settled.length
      · rw [hround', if_pos rfl, List.getElem?_concat_length]
        rfl
      · -- an earlier round of the key has a slot of its own
        have hne : (⟨names other round⟩ : Pending) ≠
            ⟨names other (lanes other).settled.length⟩ := fun heq =>
          hround' (h.inj _ _ _ _ hround hlast (Pending.mk.inj heq)).2
        rw [Lane.rounds_of_isSome howner] at hround
        rw [if_neg hne, List.getElem?_append_left (by omega)]
    · have hne : (⟨names other round⟩ : Pending) ≠ ⟨names key (lanes key).settled.length⟩ :=
        fun heq => hother (h.inj _ _ _ _ hround hlast (Pending.mk.inj heq)).1
      rw [if_neg hne, Function.update_of_ne hother]
  · intro other slot
    rw [h.sound.mem_publishers_publish, h.publisher_iff, ne_eq, Publisher.mk.injEq]
    by_cases hother : other = key
    · subst hother
      rw [Function.update_self, hidle]
      refine iff_of_false ?_ fun hboth => Bool.false_ne_true hboth.1
      rintro ⟨⟨-, rfl⟩, hne⟩
      exact hne ⟨rfl, rfl⟩
    · rw [Function.update_of_ne hother]
      simp [Ne.symm hother]

/-- Of a round of the lanes, a wait shows its outcome, and is never found closed without one. -/
theorem Files.outcome?_wait (h : Files names lanes c) {key : RequestKey} {round : Nat}
    (hround : round < (lanes key).rounds) :
    (c.wait ⟨names key round⟩).outcome? = (lanes key).settled[round]? := by
  rw [← h.outcome key round hround]
  cases hget : c.tryGet ⟨names key round⟩ with
  | some shared =>
    unfold Coalescer.wait
    rw [hget]
    rfl
  | none =>
    have hlt := h.slot_lt key round hround
    have hempty : c.slots[names key round]? = some none := by
      unfold Coalescer.tryGet at hget
      rw [Array.getElem?_eq_getElem hlt] at hget ⊢
      exact congrArg some hget
    rw [h.sound.wait_of_mem ((h.sound.slot_empty_iff _).mp hempty)]
    rfl

/-- Rounds of a key show one and the same outcome exactly if they are one, and over. -/
theorem Files.same_eq (h : Files names lanes c) {key : RequestKey} {a b : Nat}
    (ha : a < (lanes key).rounds) (hb : b < (lanes key).rounds) :
    c.same ⟨names key a⟩ ⟨names key b⟩ = (b = a && (lanes key).settled[a]?.isSome) := by
  rw [Bool.eq_iff_iff, h.numbered.same_iff, ← h.outcome key a ha, Option.isSome_map,
    Bool.and_eq_true, decide_eq_true_eq, Pending.mk.injEq]
  exact and_congr_left' ⟨fun heq => (h.inj _ _ _ _ hb ha heq).2, fun heq => by rw [heq]⟩

end Files
end NodeRpc
