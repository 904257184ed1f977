import NodeRpc.Proofs.Json.Skipping

/-!
# What a text holds

The members of an object are lost once it is a value: one of several of a name is kept, and they are
sorted. `written` tells them as they stand in the text, and a text is JSON if it holds something
(`parse_eq_written`).

It is needed where the program reads a text in another way than as a value. The envelope of an
answer is read member by member, a name that comes twice is refused, and an array is taken for an
object; none of that can be said of the value that the text is read as, in which the name is there
once and in another place. Yet "the text is JSON" should mean what the reader of values says it
means, and the equation is there for that.

A text that is no JSON can still be in form (`InForm`). That is all that is asked of what is passed
over.
-/

namespace NodeRpc.Json

/-- What a JSON text holds, with all members of an object as they are written. What stands inside
the members are values already; only the outermost object is kept as it was. -/
inductive Written where
  | scalar (value : Json)
  | list (items : List Json)
  | record (members : List (String × Json))

/-- Reads the items or the members of a text that holds an array or an object. -/
def written (text : List Char) : Except Fault Written :=
  match skipSpace text with
  | '[' :: rest => do
    let (items, rest) ← readItems (readValue (nestingLimit - 1)) (rest.length + 1) true rest
    readEnd rest
    return .list items
  | '\x7b' :: rest => do
    let (members, rest) ← readMembers (readValue (nestingLimit - 1)) (rest.length + 1) true rest
    readEnd rest
    return .record members
  | s => do
    let (value, rest) ← readValue nestingLimit s
    readEnd rest
    return .scalar value

def Written.value : Written → Json
  | .scalar value => value
  | .list items => .array items
  | .record members => ofMembers members

theorem readValue_skipSpace (depth : Nat) (s : List Char) :
    readValue depth (skipSpace s) = readValue depth s := by
  unfold readValue
  rw [skipSpace_skipSpace]

theorem readValue_array {s rest : List Char} (h : skipSpace s = '[' :: rest) (depth : Nat) :
    readValue (depth + 1) s =
      (readItems (readValue depth) (rest.length + 1) true rest).map fun p => (.array p.1, p.2) := by
  unfold readValue
  rw [h]
  show (readItems (readValue depth) (rest.length + 1) true rest >>= fun p =>
    .ok (array p.1, p.2)) = _
  cases readItems (readValue depth) (rest.length + 1) true rest with
  | error fault => rfl
  | ok p => rfl

theorem readValue_object {s rest : List Char} (h : skipSpace s = '\x7b' :: rest) (depth : Nat) :
    readValue (depth + 1) s =
      (readMembers (readValue depth) (rest.length + 1) true rest).map
        fun p => (ofMembers p.1, p.2) := by
  unfold readValue
  rw [h]
  show (readMembers (readValue depth) (rest.length + 1) true rest >>= fun p =>
    .ok (ofMembers p.1, p.2)) = _
  cases readMembers (readValue depth) (rest.length + 1) true rest with
  | error fault => rfl
  | ok p => rfl

/-- What is read may be looked at before or after the end of the text is. -/
theorem map_readEnd {α β : Type} (f : α → β) (value : α) (rest : List Char) :
    (readEnd rest >>= fun _ => (.ok (f value) : Except Fault β)) =
      (readEnd rest >>= fun _ => .ok value).map f := by
  cases readEnd rest with
  | error fault => rfl
  | ok u => rfl

theorem toOption_map {α β : Type} (f : α → β) (x : Except Fault α) :
    (x.map f).toOption = x.toOption.map f := by
  cases x with
  | error fault => rfl
  | ok a => rfl

/-- **What is written is what is read.** Errors are the same as well, with their places, so a text
is refused by one exactly when it is refused by the other. -/
theorem parse_eq_written (text : List Char) : parse text = (written text).map Written.value := by
  unfold parse written
  split
  · rename_i rest hfirst
    have hread : readValue nestingLimit text = _ := readValue_array hfirst (nestingLimit - 1)
    rw [hread]
    cases readItems (readValue (nestingLimit - 1)) (rest.length + 1) true rest with
    | error fault => rfl
    | ok p => exact map_readEnd Written.value (.list p.1) p.2
  · rename_i rest hfirst
    have hread : readValue nestingLimit text = _ := readValue_object hfirst (nestingLimit - 1)
    rw [hread]
    cases readMembers (readValue (nestingLimit - 1)) (rest.length + 1) true rest with
    | error fault => rfl
    | ok p => exact map_readEnd Written.value (.record p.1) p.2
  · rw [readValue_skipSpace]
    cases readValue nestingLimit text with
    | error fault => rfl
    | ok p => exact map_readEnd Written.value (.scalar p.1) p.2

/-- The text has the form of JSON: a value can be passed over, and nothing is left behind it.
Not all that is in form can be read: numbers may be too large, surrogates may stand alone, and
arrays and objects may nest too deep. -/
def InForm (text : List Char) : Prop :=
  ∃ rest, skipValue (2 * text.length + 2) text = .ok rest ∧ readEnd rest = .ok ()

theorem inForm_of_passesOver {text rest : List Char} (h : PassesOver text rest)
    (hend : readEnd rest = .ok ()) : InForm text :=
  ⟨rest, h.skipValue_eq _ (Nat.le_refl _), hend⟩

end NodeRpc.Json
