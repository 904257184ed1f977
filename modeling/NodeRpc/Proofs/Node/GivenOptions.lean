import NodeRpc.Node.Ledger
import NodeRpc.Node.Mining
import NodeRpc.Node.Network
import NodeRpc.Node.Submission

/-!
# Options at the end of a call

The node tells parameters apart by where they stand and not by a name, so an option is worth
nothing unless it stands at its own place. Eleven operations end in such options. This module says
which of the options that a caller gives are sent, and where.

The sentence one would like is that an option which is given is sent. It fails for a reason that
lies in the protocol. A list of parameters has no way to pass over one of them, and so an option
behind a gap would either move up, to be read as another, or it has to go. It goes. `Sends` is the
law that remains: first the required parameters, each where it belongs, and behind them those of the
options that have no gap in front of them, each where it belongs, and nothing else. It is an iff,
so it says as well that an option never stands in the place of another; that half is the one whose
failure would not be noticed, as the node would answer such a call without complaint. The case that
made it a law about gaps and not about options is `listUnspent none (some 9)`, which asks for all
outputs that are not spent (`options_behind_gaps`).

A balance query is the one operation that fills a gap. Its first option is an account, and there is
a name for all accounts that can stand in for it. So the number of confirmations is sent whenever it
is given, and whether to include what is only watched is sent whenever both are given. The theorem
is silent about a balance query that is told to include what is only watched and is not told a
number of confirmations, other than that an account which is given is sent.
-/

namespace NodeRpc

/-- All options in front of a place are given, so that there is no gap which an option at that place
could be moved into. -/
def GivenBefore (options : List (Option Json)) (place : Nat) : Prop :=
  ∀ j < place, ∃ value, options[j]? = some (some value)

/-- These parameters go out for a call: the required ones come first, and behind them stands in
its own place each option that is given and has no gap in front of it, and nothing else. -/
structure Sends (params required : List Json) (options : List (Option Json)) : Prop where
  front : ∀ place < required.length, params[place]? = required[place]?
  option : ∀ place value, params[required.length + place]? = some value ↔
    options[place]? = some (some value) ∧ GivenBefore options place

/-! ## What is in front of the first gap

The list that is sent ends at the first option that is left out. Both of its properties, that it has
everything in front of that gap and that it has nothing behind it, are one iff about a place, and it
goes by induction on the options. -/

theorem givenBefore_zero (options : List (Option Json)) : GivenBefore options 0 :=
  fun _ hj => absurd hj (Nat.not_lt_zero _)

theorem givenBefore_cons {value : Json} {options : List (Option Json)} {place : Nat} :
    GivenBefore (some value :: options) (place + 1) ↔ GivenBefore options place := by
  constructor
  · intro h j hj
    exact h (j + 1) (Nat.succ_lt_succ hj)
  · intro h j hj
    cases j with
    | zero => exact ⟨value, rfl⟩
    | succ j => exact h j (Nat.lt_of_succ_lt_succ hj)

/-- **The options that are sent are those in front of the first gap, in their places.** A place
behind a gap is empty, whatever was given for it. -/
theorem getElem?_trailing (options : List (Option Json)) (place : Nat) (value : Json) :
    (trailing options)[place]? = some value ↔
      options[place]? = some (some value) ∧ GivenBefore options place := by
  induction options generalizing place with
  | nil => simp [trailing]
  | cons option rest ih =>
    cases option with
    | none =>
      -- the gap ends the list, and it stands in front of all that follows
      constructor
      · intro h
        cases h
      · rintro ⟨hvalue, hbefore⟩
        cases place with
        | zero => cases hvalue
        | succ place =>
          obtain ⟨first, hfirst⟩ := hbefore 0 (Nat.succ_pos place)
          cases hfirst
    | some first =>
      rw [trailing]
      cases place with
      | zero => simp [givenBefore_zero]
      | succ place =>
        rw [List.getElem?_cons_succ, List.getElem?_cons_succ, givenBefore_cons]
        exact ih place

theorem sends_trailing (required : List Json) (options : List (Option Json)) :
    Sends (required ++ trailing options) required options where
  front _ hplace := List.getElem?_append_left hplace
  option place value := by
    rw [List.getElem?_append_right (Nat.le_add_right _ _), Nat.add_sub_cancel_left]
    exact getElem?_trailing options place value

namespace Node

/-! ## Calls of the node -/

/-- With a number of confirmations given, a balance query names an account. -/
theorem params_balance_of_some (account : Option String) (minConfirmations : UInt32)
    (includeWatchOnly : Option Bool) :
    (balance account (some minConfirmations) includeWatchOnly).params =
      [.text (account.getD "*"), .word32 minConfirmations] ++
        trailing [includeWatchOnly.map .bool] := by
  cases account with
  | none => rfl
  | some account => rfl

theorem params_balance_of_account (account : String) (minConfirmations : Option UInt32) :
    (balance (some account) minConfirmations none).params =
      [.text account] ++ trailing [minConfirmations.map .word32] := by
  cases minConfirmations with
  | none => rfl
  | some minConfirmations => rfl

/-- **A given option is sent in its own place if no option in front of it is left out.** This is so
for all calls that end in options and need no account, and the list ends at the first option that is
left out, so that no option is ever sent in the place of another. A balance query sends nothing if
it is given nothing. It sends the account it is given; the number of confirmations whenever it is
given, behind the name for all accounts if there is no account; and with such a number also whether
to include what is only watched. -/
theorem given_options_sent :
    (∀ txid vout includeMempool, Sends (txOut txid vout includeMempool).params
      [.hash txid, .word32 vout] [includeMempool.map .bool]) ∧
    (∀ blocks maxTries, Sends (generate blocks maxTries).params
      [.word32 blocks] [maxTries.map .word]) ∧
    (∀ blocks address maxTries, Sends (generateToAddress blocks address maxTries).params
      [.word32 blocks, .text address] [maxTries.map .word]) ∧
    (∀ tx allowHighFees dontCheckFee,
      Sends (sendRawTransaction tx allowHighFees dontCheckFee).params
        [.text tx.hex] [allowHighFees.map .bool, dontCheckFee.map .bool]) ∧
    (∀ blocks height, Sends (networkHashPs blocks height).params
      [] [blocks.map .int, height.map .int]) ∧
    (∀ includeCoinbase, Sends (miningCandidate includeCoinbase).params
      [] [includeCoinbase.map .bool]) ∧
    (∀ subnet action banTime absolute, Sends (setBan subnet action banTime absolute).params
      [.text subnet, .text action.word] [banTime.map .word, absolute.map .bool]) ∧
    (∀ account, Sends (newAddress account).params [] [account.map .text]) ∧
    (∀ minConfirmations maxConfirmations,
      Sends (listUnspent minConfirmations maxConfirmations).params
        [] [minConfirmations.map .word32, maxConfirmations.map .word32]) ∧
    (∀ address amount comment commentTo,
      Sends (sendToAddress address amount comment commentTo).params
        [.text address, amount.json] [comment.map .text, commentTo.map .text]) ∧
    (balance none none none).params = [] ∧
    (∀ account minConfirmations includeWatchOnly,
      (balance (some account) minConfirmations includeWatchOnly).params[0]? =
        some (.text account)) ∧
    (∀ account minConfirmations, Sends (balance (some account) minConfirmations none).params
      [.text account] [minConfirmations.map .word32]) ∧
    (∀ account minConfirmations includeWatchOnly,
      Sends (balance account (some minConfirmations) includeWatchOnly).params
        [.text (account.getD "*"), .word32 minConfirmations] [includeWatchOnly.map .bool]) := by
  refine ⟨?_, ?_, ?_, ?_, ?_, ?_, ?_, ?_, ?_, ?_, rfl, ?_, ?_, ?_⟩
  · intro txid vout includeMempool
    exact sends_trailing _ _
  · intro blocks maxTries
    exact sends_trailing [_] _
  · intro blocks address maxTries
    exact sends_trailing _ _
  · intro tx allowHighFees dontCheckFee
    exact sends_trailing [_] _
  · intro blocks height
    exact sends_trailing [] _
  · intro includeCoinbase
    exact sends_trailing [] _
  · intro subnet action banTime absolute
    exact sends_trailing _ _
  · intro account
    exact sends_trailing [] _
  · intro minConfirmations maxConfirmations
    exact sends_trailing [] _
  · intro address amount comment commentTo
    exact sends_trailing _ _
  · intro account minConfirmations includeWatchOnly
    rfl
  · intro account minConfirmations
    rw [params_balance_of_account]
    exact sends_trailing _ _
  · intro account minConfirmations includeWatchOnly
    rw [params_balance_of_some]
    exact sends_trailing _ _

/-- The most confirmations are not sent if the fewest are left out: the gap is in front. -/
theorem options_behind_gaps : (listUnspent none (some 9)).params[1]? ≠ some (.word32 9) :=
  nofun

end Node
end NodeRpc
