/-!
# Character tables

A class of characters that no formula describes is given by its ranges of code points. This module
holds membership in such a table, and in a table of case pairs.
-/

namespace Highlighter.Text

/-- A set of code points, as inclusive ranges in ascending order. -/
abbrev CharTable := List (Nat × Nat)

/-- Membership of a code point in a table. -/
def CharTable.contains (table : CharTable) (code : Nat) : Bool :=
  table.any fun range => range.1 ≤ code && code ≤ range.2

/-- A run of code points `first, first + stride, …, last` that are all moved by the same amount. -/
structure CaseRun where
  first : Nat
  last : Nat
  stride : Nat
  shift : Int
  deriving DecidableEq, Repr

/-- Whether a code point belongs to the run. -/
def CaseRun.contains (run : CaseRun) (code : Nat) : Bool :=
  run.first ≤ code && code ≤ run.last && (code - run.first) % run.stride == 0

/-- Moves a code point by the first run that holds it; all other code points stay. -/
def shiftBy (runs : List CaseRun) (code : Nat) : Nat :=
  match runs.find? (·.contains code) with
  | some run => (Int.ofNat code + run.shift).toNat
  | none => code

end Highlighter.Text
