import NodeRpc.Text.Blank
import NodeRpc.Text.Hex

/-!
# Runs of characters

A class of characters is given by the runs of code points that are in it. In a text the runs are
words, and a run is its two ends in base sixteen with a dash between them, or its one character
alone.

The classes are tables of up to hundreds of runs. They are texts because a table of terms of that
size is slow to compile.
-/

namespace NodeRpc.Text

/-- The entries of a table that is written as a text, one word for each. -/
def entries {α : Type} (read? : List Char → Option α) (text : String) : List α :=
  (words text.toList).filterMap read?

/-- The ends of a run. -/
def runEnds? (text : List Char) : Option (Nat × Nat) :=
  match splitOnce '-' text with
  | none => (numberInBase? 16 text).map fun code => (code, code)
  | some (first, last) => do return (← numberInBase? 16 first, ← numberInBase? 16 last)

/-- The runs of a class, ends included. -/
structure Runs where
  ends : List (Nat × Nat)

namespace Runs

/-- The runs that a text lists; a word that is not a run is left out. -/
def ofText (text : String) : Runs := ⟨entries runEnds? text⟩

/-- Whether a character is in one of the runs. -/
def contains (runs : Runs) (c : Char) : Bool :=
  runs.ends.any fun (first, last) => first ≤ c.toNat && c.toNat ≤ last

end Runs
end NodeRpc.Text
