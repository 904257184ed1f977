import NodeRpc.Proofs.Call.Table
import Mathlib.Data.List.Induction
import Mathlib.Data.Set.Card

/-!
# The rounds of a table

A table is used by those who hold its handles: they acquire, publish, give publishers up, and look
at outcomes. What is done stands in a list, and the table is a function of it (`Coalescer.after`).
Nothing is assumed about the handles. A publisher may be used again after it has acted, and a handle
may be one that nobody was given; that neither does any harm is part of what is proved.

What should the table hold? An answer that speaks of the table's own list of publishers would say
that the table agrees with itself. So the answer is given in terms of what was done and of nothing
else: a publisher is still to act if an acquire handed it out and it was not used since
(`Coalescer.Live`). That is read off the list of uses, and the main result, `exact_table`, says that
the table holds just these, one entry for each.

The statement is a bijection and not a pair of inclusions, as it is also about how many entries
there are: two publishers with one entry, or one publisher with two, would pass for equality of
sets. For the same reason the number in flight is the number of publishers that are still to act,
counted as a set.

The last part of `exact_table` is the one that took most of the work, and it is about the future. A
publisher that was used changes nothing more, *whatever was done since*. Among what may have been
done is that its key was acquired again, so that an entry stands under the key which the publisher
would remove if it were let. `exact_table_nextRound` is that case.
-/

namespace NodeRpc

namespace Acquired

/-- The read side that a caller gets in either role. -/
def pending : Acquired → Pending
  | .owner pending _ => pending
  | .waiter pending => pending

/-- The publisher that an owner gets. -/
def publisher? : Acquired → Option Publisher
  | .owner _ publisher => some publisher
  | .waiter _ => none

end Acquired

namespace Coalescer

/-- Something that is done to a table with one of its handles, or to get one. Handles may come from
anywhere; that one was handed out by this table is not asked. -/
inductive Use where
  | acquire (key : RequestKey)
  | publish (publisher : Publisher) (outcome : Outcome)
  | dropPublisher (publisher : Publisher)
  | tryGet (pending : Pending)
  | wait (pending : Pending)
  | dropPending (pending : Pending)

/-- What the round of a publisher ends with, if this uses the publisher: what is published, or that
the round was abandoned if the publisher is given up. -/
def Use.ending? (p : Publisher) : Use → Option Outcome
  | .publish q outcome => if q = p then some outcome else none
  | .dropPublisher q => if q = p then some (.error .aborted) else none
  | .acquire _ => none
  | .tryGet _ => none
  | .wait _ => none
  | .dropPending _ => none

/-- The table after something was done. Looking at an outcome and forgetting it change nothing. -/
def apply (c : Coalescer) : Use → Coalescer
  | .acquire key => (c.acquire key).2
  | .publish publisher outcome => c.publish publisher outcome
  | .dropPublisher publisher => c.dropPublisher publisher
  | .tryGet _ => c
  | .wait _ => c
  | .dropPending _ => c

/-- A new table after all of this was done, in order. Every statement about the table is one about
`after uses`, for any list of uses. -/
def after (uses : List Use) : Coalescer := uses.foldl apply empty

theorem after_append (uses more : List Use) :
    after (uses ++ more) = more.foldl apply (after uses) := List.foldl_append

theorem after_snoc (uses : List Use) (use : Use) :
    after (uses ++ [use]) = (after uses).apply use := after_append uses [use]

/-- The publisher that a use hands out, if it is an acquire that makes its caller an owner. -/
def handsOut? (c : Coalescer) : Use → Option Publisher
  | .acquire key => (c.acquire key).1.publisher?
  | .publish _ _ => none
  | .dropPublisher _ => none
  | .tryGet _ => none
  | .wait _ => none
  | .dropPending _ => none

/-- Among these uses an acquire of a key began a round and handed out its publisher: `before`
was done before it and `since` after it. -/
structure Began (uses before : List Use) (key : RequestKey) (p : Publisher) (since : List Use) :
    Prop where
  uses_eq : uses = before ++ .acquire key :: since
  handed_out : ((after before).acquire key).1.publisher? = some p

/-- A publisher is still to act: it was handed out, and it was neither published nor dropped since.
There may be several acquires of the key among the uses; the one that counts is the one that handed
this publisher out. -/
def Live (uses : List Use) (p : Publisher) : Prop :=
  ∃ before key since, Began uses before key p since ∧ ∀ use ∈ since, use.ending? p = none

/-! ## What is done keeps the table sound

A use is one of six things, and for the table there are three kinds: it asks for a key, it makes a
publisher act, or it changes nothing. `apply_cases` says which, and later arguments split into these
three. -/

/-- **What a use does**: it asks for a key, or it makes a publisher act, or it changes
nothing. -/
theorem apply_cases (c : Coalescer) (use : Use) :
    (∃ key, use = .acquire key) ∨
    (∃ p outcome, c.apply use = c.publish p outcome ∧ c.handsOut? use = none ∧
      ∀ q, use.ending? q = if p = q then some outcome else none) ∨
    (c.apply use = c ∧ c.handsOut? use = none ∧ ∀ q, use.ending? q = none) := by
  cases use with
  | acquire key => exact Or.inl ⟨key, rfl⟩
  | publish p outcome => exact Or.inr (Or.inl ⟨p, outcome, rfl, rfl, fun _ => rfl⟩)
  | dropPublisher p => exact Or.inr (Or.inl ⟨p, .error .aborted, rfl, rfl, fun _ => rfl⟩)
  | tryGet pending => exact Or.inr (Or.inr ⟨rfl, rfl, fun _ => rfl⟩)
  | wait pending => exact Or.inr (Or.inr ⟨rfl, rfl, fun _ => rfl⟩)
  | dropPending pending => exact Or.inr (Or.inr ⟨rfl, rfl, fun _ => rfl⟩)

theorem Sound.acquire {c : Coalescer} (h : c.Sound) (key : RequestKey) :
    (c.acquire key).2.Sound := by
  rcases h.acquire_cases key with ⟨p, -, -, heq⟩ | ⟨hnone, heq⟩
  · rw [heq]
    exact h
  · rw [heq]
    exact h.begun hnone

theorem Sound.publish {c : Coalescer} (h : c.Sound) (p : Publisher) (outcome : Outcome) :
    (c.publish p outcome).Sound := by
  by_cases hp : p ∈ c.publishers
  · rw [publish_of_mem hp]
    exact h.resolved hp outcome
  · rw [publish_of_not_mem hp]
    exact h

theorem Sound.apply {c : Coalescer} (h : c.Sound) (use : Use) : (c.apply use).Sound := by
  rcases c.apply_cases use with ⟨key, rfl⟩ | ⟨p, outcome, heq, -⟩ | ⟨heq, -⟩
  · exact h.acquire key
  · rw [heq]
    exact h.publish p outcome
  · rw [heq]
    exact h

/-- **The table is sound whatever is done with its handles.** They may be used twice, in any order
or never, and they may be used long after their round is over. -/
theorem sound_after (uses : List Use) : (after uses).Sound := by
  induction uses using List.reverseRecOn with
  | nil => exact sound_empty
  | append_singleton uses use ih =>
    rw [after_snoc]
    exact ih.apply use

/-! ## Who is left to act

`Live` is defined over the whole list of uses, and the table is made step by step. `live_snoc` says
how the one changes with a use and `Sound.mem_publishers_apply` how the other does, in the same
words; the rest is induction from the end of the list. -/

theorem Sound.mem_publishers_publish {c : Coalescer} (h : c.Sound) (p : Publisher)
    (outcome : Outcome) (q : Publisher) :
    q ∈ (c.publish p outcome).publishers ↔ q ∈ c.publishers ∧ p ≠ q := by
  by_cases hp : p ∈ c.publishers
  · rw [publish_of_mem hp]
    show q ∈ c.publishers.erase p ↔ _
    rw [h.publishers_nodup.mem_erase_iff]
    exact ⟨fun hq => ⟨hq.2, hq.1.symm⟩, fun hq => ⟨hq.2.symm, hq.1⟩⟩
  · rw [publish_of_not_mem hp]
    refine ⟨fun hq => ⟨hq, ?_⟩, And.left⟩
    rintro rfl
    exact hp hq

/-- A publisher is left after a use if it was left before and was not used, or if it was
handed out by it. -/
theorem Sound.mem_publishers_apply {c : Coalescer} (h : c.Sound) (use : Use) (q : Publisher) :
    q ∈ (c.apply use).publishers ↔
      (q ∈ c.publishers ∧ use.ending? q = none) ∨ c.handsOut? use = some q := by
  rcases c.apply_cases use with ⟨key, rfl⟩ | ⟨p, outcome, heq, hnone, hending⟩ |
    ⟨heq, hnone, hending⟩
  · show q ∈ (c.acquire key).2.publishers ↔
      (q ∈ c.publishers ∧ none = none) ∨ (c.acquire key).1.publisher? = some q
    rcases h.acquire_cases key with ⟨p, -, -, hacq⟩ | ⟨-, hacq⟩
    · rw [hacq]
      simp [Acquired.publisher?]
    · rw [hacq]
      show q ∈ (⟨key, c.slots.size⟩ : Publisher) :: c.publishers ↔ _
      simp [Acquired.publisher?, or_comm, eq_comm]
  · rw [heq, h.mem_publishers_publish, hnone, hending]
    simp
  · rw [heq, hnone, hending]
    simp

theorem Began.snoc {uses before since : List Use} {key : RequestKey} {p : Publisher}
    (h : Began uses before key p since) (more : List Use) :
    Began (uses ++ more) before key p (since ++ more) :=
  ⟨by rw [h.uses_eq, List.append_assoc]; rfl, h.handed_out⟩

theorem live_snoc (uses : List Use) (use : Use) (p : Publisher) :
    Live (uses ++ [use]) p ↔
      (Live uses p ∧ use.ending? p = none) ∨ (after uses).handsOut? use = some p := by
  constructor
  · rintro ⟨before, key, since, ⟨huses, hp⟩, hsince⟩
    rcases List.eq_nil_or_concat' since with rfl | ⟨since, last, rfl⟩
    · -- the last use is the one that handed it out
      obtain ⟨rfl, hlast⟩ := List.append_inj' huses rfl
      obtain rfl := List.singleton_inj.mp hlast
      exact Or.inr hp
    · rw [← List.cons_append, ← List.append_assoc] at huses
      obtain ⟨rfl, hlast⟩ := List.append_inj' huses rfl
      obtain rfl := List.singleton_inj.mp hlast
      refine Or.inl ⟨⟨before, key, since, ⟨rfl, hp⟩, ?_⟩, ?_⟩
      · exact fun other hother => hsince other (List.mem_append_left _ hother)
      · exact hsince use (List.mem_append_right _ (List.mem_singleton_self use))
  · rintro (⟨⟨before, key, since, hbegan, hsince⟩, hnone⟩ | hout)
    · refine ⟨before, key, since ++ [use], hbegan.snoc [use], ?_⟩
      intro other hother
      rcases List.mem_append.mp hother with hother | hother
      · exact hsince other hother
      · rwa [List.mem_singleton.mp hother]
    · cases use with
      | acquire key =>
        exact ⟨uses, key, [], ⟨rfl, hout⟩, fun other hother => by cases hother⟩
      | publish q outcome => cases hout
      | dropPublisher q => cases hout
      | tryGet pending => cases hout
      | wait pending => cases hout
      | dropPending pending => cases hout

/-- **The publishers in the table are those that are still to act.** On the left this is read off
the list of uses, without any table: who was made by it and was not used since. -/
theorem live_iff (uses : List Use) (p : Publisher) :
    Live uses p ↔ p ∈ (after uses).publishers := by
  induction uses using List.reverseRecOn with
  | nil =>
    constructor
    · rintro ⟨before, key, since, ⟨huses, -⟩, -⟩
      exact absurd huses.symm (List.append_ne_nil_of_right_ne_nil _ (List.cons_ne_nil _ _))
    · intro hp
      cases hp
  | append_singleton uses use ih =>
    rw [live_snoc, after_snoc, (sound_after uses).mem_publishers_apply, ih]

/-! ## What a publisher writes -/

/-- A publisher that acts writes its own slot and no other. -/
theorem Sound.tryGet_publish {c : Coalescer} (h : c.Sound) {p : Publisher}
    (hp : p ∈ c.publishers) (outcome : Outcome) (pending : Pending) :
    (c.publish p outcome).tryGet pending =
      if pending = ⟨p.slot⟩ then some ⟨c.published, outcome⟩ else c.tryGet pending := by
  rw [publish_of_mem hp]
  show ((c.slots.setIfInBounds p.slot (some ⟨c.published, outcome⟩))[pending.slot]?).join = _
  rw [Array.getElem?_setIfInBounds]
  by_cases hslot : pending = ⟨p.slot⟩
  · subst hslot
    rw [if_pos rfl, if_pos (h.slot_lt hp), if_pos rfl]
    rfl
  · have hne : p.slot ≠ pending.slot := by
      intro heq
      exact hslot (by rw [heq])
    rw [if_neg hne, if_neg hslot]
    rfl

/-- A publisher that acts takes its own entry out of the table and no other. -/
theorem Sound.table_publish {c : Coalescer} (h : c.Sound) {p : Publisher}
    (hp : p ∈ c.publishers) (outcome : Outcome) :
    (c.publish p outcome).table = c.table.filter (· ≠ p.entry) := by
  rw [publish_of_mem hp]
  unfold Coalescer.resolved
  apply List.filter_congr
  intro e he
  rw [h.table_eq] at he
  obtain ⟨q, hq, rfl⟩ := List.mem_map.mp he
  -- an entry under its key is its own
  have hiff : q.key = p.key ↔ q.entry = p.entry :=
    ⟨fun hkey => by rw [h.eq_of_key_eq hq hp hkey], fun heq => congrArg Prod.fst heq⟩
  simp only [ne_eq, ← hiff]
  rfl

theorem Sound.tryGet_of_mem {c : Coalescer} (h : c.Sound) {p : Publisher}
    (hp : p ∈ c.publishers) : c.tryGet ⟨p.slot⟩ = none := by
  have hempty := (h.slot_empty_iff p.slot).mpr (List.mem_map_of_mem hp)
  unfold tryGet
  rw [hempty]
  rfl

/-! ## No publisher comes back

A publisher is a key and a slot. Slots are numbered as they are made, and a new publisher gets a new
slot, so whoever is not left to act for an old slot is not handed out again. The argument goes by
the number of slots and does not look at keys. -/

/-- A use takes up at most one slot, for the publisher that it hands out. -/
theorem Sound.size_apply {c : Coalescer} (h : c.Sound) (use : Use) :
    c.slots.size ≤ (c.apply use).slots.size ∧
      ∀ p, c.handsOut? use = some p → p.slot = c.slots.size := by
  rcases c.apply_cases use with ⟨key, rfl⟩ | ⟨p, outcome, heq, hnone, -⟩ | ⟨heq, hnone, -⟩
  · show c.slots.size ≤ (c.acquire key).2.slots.size ∧
      ∀ p, (c.acquire key).1.publisher? = some p → p.slot = c.slots.size
    rcases h.acquire_cases key with ⟨p, -, -, hacq⟩ | ⟨-, hacq⟩
    · rw [hacq]
      exact ⟨Nat.le_refl _, fun q hq => by cases hq⟩
    · rw [hacq]
      refine ⟨?_, fun q hq => by cases hq; rfl⟩
      show c.slots.size ≤ (c.slots.push none).size
      rw [Array.size_push]
      exact Nat.le_succ _
  · rw [heq, hnone]
    refine ⟨?_, fun q hq => by cases hq⟩
    by_cases hp : p ∈ c.publishers
    · rw [publish_of_mem hp]
      exact Nat.le_of_eq Array.size_setIfInBounds.symm
    · rw [publish_of_not_mem hp]
  · rw [heq, hnone]
    exact ⟨Nat.le_refl _, fun q hq => by cases hq⟩

theorem size_le_after (uses more : List Use) :
    (after uses).slots.size ≤ (after (uses ++ more)).slots.size := by
  induction more using List.reverseRecOn with
  | nil => rw [List.append_nil]
  | append_singleton more use ih =>
    rw [← List.append_assoc, after_snoc]
    exact Nat.le_trans ih ((sound_after (uses ++ more)).size_apply use).1

/-- Who is not left to act for a slot that is there will not be handed out again. -/
theorem not_mem_publishers_later {uses : List Use} {p : Publisher}
    (hslot : p.slot < (after uses).slots.size) (hp : p ∉ (after uses).publishers)
    (more : List Use) : p ∉ (after (uses ++ more)).publishers := by
  induction more using List.reverseRecOn with
  | nil => rwa [List.append_nil]
  | append_singleton more use ih =>
    have hsound := sound_after (uses ++ more)
    rw [← List.append_assoc, after_snoc, hsound.mem_publishers_apply]
    rintro (⟨hmem, -⟩ | hout)
    · exact ih hmem
    · -- what is handed out is for a slot beyond those that are there
      have hnew := (hsound.size_apply use).2 p hout
      have hsize := size_le_after uses more
      omega

/-- **A publisher that was used never acts again.** Whatever is done after it, the same publisher
does not come back, as a new round has a new slot. -/
theorem Live.not_mem_of_used {uses : List Use} {p : Publisher} (h : Live uses p) {use : Use}
    (huse : use.ending? p ≠ none) (more : List Use) :
    p ∉ (after (uses ++ use :: more)).publishers := by
  have hsound := sound_after uses
  have hp := (live_iff uses p).mp h
  have hspent : p ∉ ((after uses).apply use).publishers := by
    rw [hsound.mem_publishers_apply]
    rintro (⟨-, hnone⟩ | hout)
    · exact huse hnone
    · exact Nat.ne_of_lt (hsound.slot_lt hp) ((hsound.size_apply use).2 p hout)
  rw [← List.singleton_append, ← List.append_assoc]
  refine not_mem_publishers_later ?_ (by rwa [after_snoc]) more
  rw [after_snoc]
  exact Nat.lt_of_lt_of_le (hsound.slot_lt hp) (hsound.size_apply use).1

/-! ## The table and those who are still to act -/

/-- An acquire makes its caller an owner exactly if nobody is still to act for the key. -/
theorem Sound.isSome_publisher?_acquire {c : Coalescer} (h : c.Sound) (key : RequestKey) :
    (c.acquire key).1.publisher?.isSome ↔ ∀ p ∈ c.publishers, p.key ≠ key := by
  rcases h.acquire_cases key with ⟨p, hp, hkey, hacq⟩ | ⟨hnone, hacq⟩
  · rw [hacq]
    exact iff_of_false Bool.false_ne_true fun hnone => hnone p hp hkey
  · rw [hacq]
    exact iff_of_true rfl hnone

/-- **The table is exact.** After any uses of its handles, in any order:

* the entries of the table are those of the publishers that are still to act, one each, under
  the key of the publisher and with the read side of its slot;
* no key has two publishers that are still to act, and as many as there are, are in flight;
* the outcome of such a publisher is not there yet; when it acts it writes its own slot, and
  takes its own entry out of the table, and no other;
* whoever asks for a key becomes an owner exactly if none is still to act for it, and else gets
  a read side without an outcome yet;
* a publisher that was used changes nothing more, whatever was done since. -/
theorem exact_table (uses : List Use) :
    Set.BijOn Publisher.entry {p | Live uses p} {e | e ∈ (after uses).table} ∧
    ((after uses).table.map Prod.fst).Nodup ∧
    Set.InjOn Publisher.key {p | Live uses p} ∧
    (after uses).inFlight = {p | Live uses p}.ncard ∧
    (∀ p, Live uses p → (after uses).wait ⟨p.slot⟩ = .pending ∧ ∀ outcome pending,
      ((after uses).publish p outcome).table = (after uses).table.filter (· ≠ p.entry) ∧
      (((after uses).publish p outcome).tryGet pending).map (·.outcome) =
        if pending = ⟨p.slot⟩ then some outcome
        else ((after uses).tryGet pending).map (·.outcome)) ∧
    (∀ key, ((after uses).acquire key).1.publisher?.isSome ↔ ¬∃ p, Live uses p ∧ p.key = key) ∧
    (∀ key pending, ((after uses).acquire key).1 = .waiter pending →
      (after uses).wait pending = .pending) ∧
    (∀ p use more, Live uses p → use.ending? p ≠ none → ∀ outcome,
      (after (uses ++ use :: more)).publish p outcome = after (uses ++ use :: more) ∧
      (after (uses ++ use :: more)).dropPublisher p = after (uses ++ use :: more)) := by
  have h := sound_after uses
  have hlive : {p | Live uses p} = {p | p ∈ (after uses).publishers} :=
    Set.ext fun p => live_iff uses p
  have hentry : Function.Injective Publisher.entry := by
    rintro ⟨key, slot⟩ ⟨key', slot'⟩ heq
    obtain ⟨rfl, hpending⟩ := Prod.mk.inj heq
    obtain rfl := Pending.mk.inj hpending
    rfl
  -- the table is the list of publishers, so each part is a fact about the publishers
  refine ⟨?_, ?_, ?_, ?_, ?_, ?_, ?_, ?_⟩
  · rw [hlive, h.table_eq]
    refine ⟨fun p hp => List.mem_map_of_mem hp, hentry.injOn, fun e he => List.mem_map.mp he⟩
  · rw [h.table_eq, List.map_map]
    exact h.keys_nodup
  · rw [hlive]
    exact fun p hp q hq hkey => h.eq_of_key_eq hp hq hkey
  · rw [hlive, ← List.coe_toFinset, Set.ncard_coe_finset,
      List.toFinset_card_of_nodup h.publishers_nodup]
    unfold inFlight
    rw [h.table_eq, List.length_map]
  · intro p hp
    have hmem := (live_iff uses p).mp hp
    refine ⟨h.wait_of_mem (List.mem_map_of_mem hmem), fun outcome pending => ⟨?_, ?_⟩⟩
    · exact h.table_publish hmem outcome
    · rw [h.tryGet_publish hmem]
      split
      · rfl
      · rfl
  · intro key
    rw [h.isSome_publisher?_acquire]
    simp only [live_iff, not_exists, not_and]
  · intro key pending hacq
    rcases h.acquire_cases key with ⟨p, hp, -, heq⟩ | ⟨-, heq⟩
    · rw [heq] at hacq
      obtain rfl := Acquired.waiter.inj hacq
      exact h.wait_of_mem (List.mem_map_of_mem hp)
    · rw [heq] at hacq
      cases hacq
  · intro p use more hp huse outcome
    have hspent := hp.not_mem_of_used huse more
    exact ⟨publish_of_not_mem hspent outcome, publish_of_not_mem hspent _⟩

/-- The next round of a key is under way after the first one was published. -/
def nextRound : List Use :=
  [.acquire ⟨"getinfo"⟩, .publish ⟨⟨"getinfo"⟩, 0⟩ (.ok .null), .acquire ⟨"getinfo"⟩]

/-- The publisher of the first round is dropped only now, and the entry of the second stays. -/
theorem exact_table_nextRound :
    (after nextRound).dropPublisher ⟨⟨"getinfo"⟩, 0⟩ = after nextRound ∧
      (after nextRound).table = [(⟨"getinfo"⟩, ⟨1⟩)] ∧ (after nextRound).wait ⟨1⟩ = .pending := by
  obtain ⟨-, -, -, -, -, -, -, hspent⟩ := exact_table [.acquire ⟨"getinfo"⟩]
  have hlive : Live [.acquire ⟨"getinfo"⟩] ⟨⟨"getinfo"⟩, 0⟩ :=
    ⟨[], ⟨"getinfo"⟩, [], ⟨rfl, rfl⟩, fun use huse => by cases huse⟩
  have hused : (Use.publish ⟨⟨"getinfo"⟩, 0⟩ (.ok .null)).ending? ⟨⟨"getinfo"⟩, 0⟩ ≠ none :=
    fun hnone => by cases hnone
  exact ⟨(hspent _ _ [.acquire ⟨"getinfo"⟩] hlive hused (.ok .null)).2, rfl, rfl⟩

end Coalescer
end NodeRpc
