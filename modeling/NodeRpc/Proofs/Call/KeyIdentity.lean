import NodeRpc.Call.Operation
import NodeRpc.Proofs.Json.ReadBack

/-!
# What a request key identifies

The key of a call is a text, and the dispatcher compares nothing else. A collision would hand one
caller the answer to another's request, so the text must not be shared by two requests that differ;
a key that told apart two equal requests would merely cost a round trip.

Both directions hold (`RequestKey.ofCall_eq_iff`). The text is uniquely readable, and what is read
from it is the method and the parameters with the members of every object sorted, which is one value
out of each class of parameters that are the same. So nothing in a method can pass for a parameter,
nor the end of one parameter for the beginning of the next: a name with quotes and brackets in it is
escaped like any other text.

When are two parameters the same? `Json.Same` says it without sorting and without texts. Arrays are
compared item by item, objects name by name, and scalars by kind and by value, so `1`, `1.0` and the
text of either are three. It is a relation with a constructor for each kind of value, and that it is
what equality of sorted values comes to is a theorem and not its definition.

The text is also a JSON document. Its outer array and the array of parameters take two of the levels
that the reader goes down, so parameters may nest two levels less than a document may.
`key_readable` leaves binary64 numbers out. The reader does not promise to find the number again
that was written, and there are numbers that it does not find.
-/

namespace NodeRpc

/-- The key under which an operation is sent. -/
def Operation.key {α : Type} (op : Operation α) : RequestKey := .ofCall op.method op.params

namespace RequestKey

/-- Keys are equal exactly if the methods are and the parameters are after sorting. -/
theorem ofCall_eq_iff_sorted {m n : String} {p q : List Json} :
    ofCall m p = ofCall n q ↔ m = n ∧ p.map Json.sorted = q.map Json.sorted := by
  constructor
  · intro h
    have harray := Json.compact_injective (congrArg text h)
    simp only [Json.array.injEq, List.cons.injEq, Json.string.injEq, and_true] at harray
    exact harray
  · rintro ⟨rfl, h⟩
    unfold ofCall
    rw [h]

/-- **Key identity.** Two calls have one key exactly if they name one method and their
parameters are the same one by one: scalars by kind and value, arrays item by item, objects
by name whatever order they store their members in. -/
theorem ofCall_eq_iff (m n : String) (p q : List Json) :
    ofCall m p = ofCall n q ↔ m = n ∧ List.Forall₂ Json.Same p q := by
  rw [ofCall_eq_iff_sorted, Json.map_sorted_eq_iff]

/-! ## The key as a document

What is read back is the document with sorted parameters, since that is what was written. That it is
the same as the one that was given, and equal to it if its objects were in order, is said of the
value that is read. -/

/-- The value that a key is the text of. The method and the parameters have places of their own in
it. -/
def document (method : String) (params : List Json) : Json :=
  .array [.string method, .array params]

theorem text_ofCall (method : String) (params : List Json) :
    (ofCall method params).text = (document method (params.map Json.sorted)).compact := rfl

theorem integral_document {depth : Nat} (method : String) {params : List Json}
    (h : ∀ param ∈ params, Json.Integral depth param) :
    Json.Integral (depth + 2) (document method params) := by
  apply Json.Integral.array
  intro item hitem
  obtain rfl | hitem := List.mem_cons.mp hitem
  · exact .string method
  · rw [List.mem_singleton.mp hitem]
    exact .array h

theorem kept_document (method : String) {params : List Json}
    (h : ∀ param ∈ params, Json.Kept param) : Json.Kept (document method params) := by
  apply Json.Kept.array
  intro item hitem
  obtain rfl | hitem := List.mem_cons.mp hitem
  · exact .string method
  · rw [List.mem_singleton.mp hitem]
    exact .array h

/-- The key of a call is read as its document with the parameters sorted. -/
theorem parse?_text_ofCall (method : String) {params : List Json}
    (h : ∀ param ∈ params, Json.Integral 125 param) :
    Json.parse? (ofCall method params).text =
      some (document method (params.map Json.sorted)) := by
  rw [text_ofCall]
  apply Json.parse?_compact
  · apply integral_document
    intro param hparam
    obtain ⟨kept, hkept, rfl⟩ := List.mem_map.mp hparam
    exact (h kept hkept).sorted.1
  · apply kept_document
    intro param hparam
    obtain ⟨kept, hkept, rfl⟩ := List.mem_map.mp hparam
    exact (h kept hkept).sorted.2

theorem same_document_sorted (method : String) {params : List Json}
    (h : ∀ param ∈ params, Json.Integral 125 param) :
    Json.Same (document method (params.map Json.sorted)) (document method params) := by
  have hparams : List.Forall₂ Json.Same (params.map Json.sorted) params := by
    rw [← Json.map_sorted_eq_iff, List.map_map]
    exact List.map_congr_left fun param hparam => (h param hparam).sorted.2.sorted_eq
  exact .array (.cons (.string method) (.cons (.array hparams) .nil))

/-- **A key is readable.** Whatever the method is called, the key of a call without binary64
numbers, whose parameters nest at most 125 levels deep, is a JSON document. It holds the method
and the parameters: exactly as they were given if their objects are kept in order, and the same
but for the order of members otherwise. Written again, it is the key. -/
theorem key_readable (method : String) (params : List Json)
    (h : ∀ param ∈ params, Json.Integral 125 param) :
    ∃ read, Json.parse? (ofCall method params).text = some read ∧
      Json.Same read (.array [.string method, .array params]) ∧
      ((∀ param ∈ params, Json.Kept param) → read = .array [.string method, .array params]) ∧
      read.compact = (ofCall method params).text := by
  refine ⟨_, parse?_text_ofCall method h, same_document_sorted method h, ?_, rfl⟩
  intro hkept
  have hsorted : params.map Json.sorted = params := by
    rw [List.map_congr_left fun param hparam => (hkept param hparam).sorted_eq, List.map_id']
  rw [hsorted]
  rfl

/-- A quote in the name of the method, and an object whose members are out of order. -/
theorem key_readable_unordered :
    ∃ read,
      Json.parse? (ofCall "a\"b" [.object [("b", .null), ("a", .string "\n")]]).text = some read ∧
      Json.Same read
        (.array [.string "a\"b", .array [.object [("b", .null), ("a", .string "\n")]]]) := by
  have hmembers : ∀ member ∈ [("b", Json.null), ("a", Json.string "\n")],
      Json.Integral 124 member.2 := by
    simp [Json.Integral.null, Json.Integral.string]
  have hparams : ∀ param ∈ [Json.object [("b", .null), ("a", .string "\n")]],
      Json.Integral 125 param := List.forall_mem_singleton.mpr (.object hmembers)
  obtain ⟨read, hread, hsame, -, -⟩ := key_readable "a\"b" _ hparams
  exact ⟨read, hread, hsame⟩

end RequestKey
end NodeRpc
