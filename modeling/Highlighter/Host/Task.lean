import Highlighter.Session

/-!
# Tasks

A host runs its work as tasks that take turns. A task runs until it has to wait: for the gate to
open, for a load to end, for a latch to be released, for other tasks to end, or for its time to
come. It goes on when it is signalled.

Main definitions: `Task`, `Point`, `Signal`, `Job`.
-/

namespace Highlighter.Host

/-- How a task ended. -/
inductive Outcome where
  | profile (resolved : Resolved)
  | result (highlights : Option Highlights)
  | settled
  | cancelled
  | fault (fault : Fault)

/-- Where a task goes on. -/
inductive Point where
  /-- Asks the gate to let it through, and then asks the registry for an identifier. -/
  | resolve (identifier : Identifier)
  /-- Begins a pass for a text. -/
  | run (text : String)
  /-- Asks the registry; the profile is for a pass or is the result itself. -/
  | ask (identifier : Identifier) (pass : Option Pass)
  /-- Takes the profile that a load has given. -/
  | receive (pass : Option Pass)
  /-- Begins to load the profile of a name. -/
  | load (name : String)
  /-- Takes what the loader answers. -/
  | fetch (name location : String)
  /-- Looks whether any pass is outstanding. -/
  | settle
  /-- Gives way once before it looks again. -/
  | giveWay

/-- What a task is told when it goes on. -/
inductive Signal where
  | go
  /-- The load that it waited for has ended. -/
  | loaded (outcome : Except Fault Resolved)

/-- What happens once a task has ended. -/
inductive Callback where
  /-- The pass is no longer outstanding. -/
  | discard
  /-- A task that waits for the load is told; telling takes a turn of its own. -/
  | relay (waiter : Nat)
  /-- A task that waits for several tasks counts. -/
  | count (waiter : Nat)

/-- What a task is doing. -/
inductive Phase where
  /-- It is going to be run. -/
  | scheduled
  /-- It waits to be signalled. -/
  | waiting
  | ended (outcome : Outcome)

/-- A task of a host. -/
structure Task where
  point : Point
  phase : Phase := .scheduled
  /-- The number under which it is reported. -/
  number : Option Nat := none
  /-- It is going to be cancelled when it is run next. -/
  condemned : Bool := false
  /-- The number of tasks that it still waits for. -/
  awaited : Nat := 0
  callbacks : List Callback := []

/-- Whether a task has ended. -/
def Task.isEnded (task : Task) : Bool :=
  match task.phase with
  | .ended _ => true
  | _ => false

/-- What a host does next, one job at a time. -/
inductive Job where
  | step (task : Nat) (signal : Signal)
  /-- Tells a waiting task how a load has ended. -/
  | relay (waiter : Nat) (outcome : Except Fault Resolved)
  | discard (task : Nat)
  | count (waiter : Nat)
  /-- Begins the pass of the noted text. -/
  | ring
  /-- Wakes a task that sleeps. -/
  | wake (task : Nat)

/-- What a timer is for. -/
inductive Alarm where
  | ring
  | wake (task : Nat)

/-- The job that a timer leads to. -/
def Alarm.job : Alarm → Job
  | .ring => .ring
  | .wake task => .wake task

/-- Whether a timer is the one of the noted text. -/
def Alarm.isRing : Alarm → Bool
  | .ring => true
  | .wake _ => false

/-- A timer: the time in seconds at which it is due. -/
structure Timer where
  time : Float
  alarm : Alarm

end Highlighter.Host
