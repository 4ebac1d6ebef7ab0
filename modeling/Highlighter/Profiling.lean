import Highlighter.Extraction

/-!
# Counting work

Blocks in which work is counted. A block makes counts of its own when it begins, and makes them the
active ones; when it ends, those that were active before it are active again. Work that is done is
recorded in the active counts, if there are any.

Main definitions: `Ledger`, `CountedStep`, `CountedStep.run`.
-/

namespace Highlighter

/-- The counts of all blocks that have begun, in the order in which they have, and the place of the
active ones. -/
structure Ledger where
  counts : List Tally := []
  active : Option Nat := none
  deriving DecidableEq, Repr

namespace Ledger

/-- The active counts. -/
def current? (ledger : Ledger) : Option Tally :=
  ledger.active.bind fun place => ledger.counts[place]?

/-- Adds to the active counts, if there are any. -/
def record (ledger : Ledger) (tally : Tally) : Ledger :=
  match ledger.active with
  | some place => { ledger with counts := ledger.counts.modify place (·.add tally) }
  | none => ledger

/-- Makes new counts, which become the active ones. -/
def enter (ledger : Ledger) : Ledger where
  counts := ledger.counts ++ [{}]
  active := some ledger.counts.length

/-- Makes the counts active again that were so before a block. -/
def leave (ledger : Ledger) (before : Option Nat) : Ledger :=
  { ledger with active := before }

end Ledger

/-- Work, and blocks in which it is counted. -/
inductive CountedStep (α : Type) where
  | block (steps : List (CountedStep α))
  | work (run : Run α)

/-- What a step has shown. -/
inductive CountedReport (α : Type) where
  /-- A block has ended with these counts. -/
  | counted (tally : Tally)
  /-- Work has been done, with the active counts so far. -/
  | worked (outcome : Except Fault α) (active : Option Tally)

variable {α : Type}

mutual

/-- Takes a step; gives the reports and the ledger afterwards. -/
def CountedStep.run (ledger : Ledger) : CountedStep α → List (CountedReport α) × Ledger
  | .work run =>
    let ledger := ledger.record run.trace.tally
    ([.worked run.outcome ledger.current?], ledger)
  | .block steps =>
    let (reports, last) := CountedStep.runAll ledger.enter steps
    -- the block shows the counts that it has made, whichever are active by now
    (reports ++ [.counted (last.counts.getD ledger.counts.length {})], last.leave ledger.active)

/-- Takes steps one after the other. -/
def CountedStep.runAll (ledger : Ledger) : List (CountedStep α) → List (CountedReport α) × Ledger
  | [] => ([], ledger)
  | step :: steps =>
    let (reports, ledger) := step.run ledger
    let (others, ledger) := CountedStep.runAll ledger steps
    (reports ++ others, ledger)

end

end Highlighter
