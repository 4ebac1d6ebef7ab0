import Highlighter.Host.Loader
import Highlighter.Host.Task

/-!
# The host

A host runs a session and its registry on one cooperative schedule with a clock of its own. Jobs are
done in the order in which they were added. In a turn the host adds the jobs of the timers that are
due and then does the jobs that are there; what these add is for the next turn.

Main definitions: `Host`, `Host.step`, `Host.turn`, `Host.drain`.
-/

namespace Highlighter

open Highlighter.Host

/-- A latch that holds back the loads of an identifier. -/
structure Latch where
  identifier : String
  released : Bool := false
  /-- The loads that wait, in the order in which they began to wait. -/
  waiters : List Nat := []

/-- A session with everything it needs. -/
structure Host where
  registry : Registry
  loader : Loader
  session : Session FaultyCanvas
  /-- Latches, the newest first. Only the newest one of an identifier holds back new loads. -/
  latches : List Latch := []
  /-- Whether the gate is closed. -/
  gated : Bool := false
  /-- The tasks that wait at the gate, in the order in which they came. -/
  gateWaiters : List Nat := []
  /-- All tasks, by their places. -/
  tasks : List Task := []
  /-- The number of tasks that are reported. -/
  numbered : Nat := 0
  /-- The passes of notified texts that are outstanding. -/
  outstanding : List Nat := []
  jobs : List Job := []
  timers : List Timer := []
  clock : Float := 0.0
  /-- The requests to the loader since the last report. -/
  calls : List (String × String) := []
  /-- The notices since the last report. -/
  notices : List Notice := []
  /-- The reported tasks that have ended since the last report. -/
  ended : List (Nat × Outcome) := []

namespace Host

/-- Changes a task. -/
def alter (host : Host) (task : Nat) (change : Task → Task) : Host :=
  { host with tasks := host.tasks.modify task change }

/-- Adds jobs. -/
def add (host : Host) (jobs : List Job) : Host :=
  { host with jobs := host.jobs ++ jobs }

/-- Keeps the notices of work that has been done. -/
def record {α : Type} (host : Host) (run : Run α) : Host :=
  { host with notices := host.notices ++ run.trace.notices }

/-- Starts a task. -/
def start (host : Host) (task : Task) : Host :=
  { host with
    tasks := host.tasks ++ [task]
    jobs := host.jobs ++ [.step host.tasks.length .go] }

/-- Starts a task that is reported. -/
def startNumbered (host : Host) (point : Point) : Host :=
  { host.start { point, number := some host.numbered } with numbered := host.numbered + 1 }

/-- Lets a task wait at a point. -/
def wait (host : Host) (task : Nat) (point : Point) : Host :=
  host.alter task fun old => { old with point, phase := .waiting }

/-- Signals a task if it waits. -/
def signal (host : Host) (task : Nat) (signal : Signal) : Host :=
  match host.tasks[task]? with
  | some { phase := .waiting, .. } =>
    (host.alter task fun old => { old with phase := .scheduled }).add [.step task signal]
  | _ => host

/-- The result of a load that ended as given. -/
def loadResult : Outcome → Except Fault Resolved
  | .profile resolved => .ok resolved
  | .fault fault => .error fault
  | _ => .ok .default

/-- The job of a callback of a task that ended as given. -/
def callbackJob (task : Nat) (outcome : Outcome) : Callback → Job
  | .discard => .discard task
  | .relay waiter => .relay waiter (loadResult outcome)
  | .count waiter => .count waiter

/-- Ends a task. -/
def finish (host : Host) (task : Nat) (outcome : Outcome) : Host :=
  match host.tasks[task]? with
  | none => host
  | some old =>
    let host := host.alter task fun old => { old with phase := .ended outcome, callbacks := [] }
    let host := host.add (old.callbacks.map (callbackJob task outcome))
    match old.number with
    | some number => { host with ended := host.ended ++ [(number, outcome)] }
    | none => host

/-- Lets a task be called back once another one has ended, which may be the case already. -/
def onEnd (host : Host) (task : Nat) (callback : Callback) : Host :=
  match host.tasks[task]? with
  | some { phase := .ended outcome, .. } => host.add [callbackJob task outcome callback]
  | _ => host.alter task fun old => { old with callbacks := old.callbacks ++ [callback] }

/-- Cancels a task: if it waits it is run to be cancelled, and if it is going to be run it is
cancelled then. -/
def cancel (host : Host) (task : Nat) : Host :=
  (host.alter task fun old => { old with condemned := true }).signal task .go

/-- The task that loads a name. -/
def loadTask? (host : Host) (name : String) : Option Nat :=
  host.tasks.findIdx? fun task =>
    match task.phase, task.point with
    | .ended _, _ => false
    | _, .load other => other == name
    | _, .fetch other _ => other == name
    | _, _ => false

variable [PatternReader]

/-- Ends the wait for a profile: a pass goes on, and otherwise the profile is the result. -/
def deliver (host : Host) (task : Nat) (pass : Option Pass) (resolved : Resolved) : Host :=
  match pass with
  | none => host.finish task (.profile resolved)
  | some pass =>
    let (session, run) := host.session.complete pass resolved.profile
    let host := { host with session }.record run
    match run.outcome with
    | .ok highlights => host.finish task (.result highlights)
    | .error fault => host.finish task (.fault fault)

/-- Asks the registry for a profile, and starts the load that it needs. -/
def ask (host : Host) (task : Nat) (identifier : Identifier) (pass : Option Pass) : Host :=
  let run := host.registry.ask identifier
  let host := host.record run
  match run.outcome with
  | .error fault => host.finish task (.fault fault)
  | .ok (registry, .ready resolved) => { host with registry }.deliver task pass resolved
  | .ok (registry, .waits name begins) =>
    let host := { host with registry }
    let host := if begins then host.start { point := .load name } else host
    let host := host.wait task (.receive pass)
    match host.loadTask? name with
    | some loading => host.onEnd loading (.relay task)
    | none => host

/-- Passes the gate, or waits in front of it. -/
def enter (host : Host) (task : Nat) (identifier : Identifier) (pass : Option Pass) : Host :=
  if host.gated then
    { host.wait task (.ask identifier pass) with gateWaiters := host.gateWaiters ++ [task] }
  else host.ask task identifier pass

/-- Ends a load with what the loader answers. -/
def endLoad (host : Host) (task : Nat) (name location : String) : Host :=
  let run := host.registry.finish name location (host.loader.answer location name)
  let host := host.record run
  match run.outcome with
  | .ok (registry, resolved) => { host with registry }.finish task (.profile resolved)
  | .error fault => host.finish task (.fault fault)

/-- Lets a load wait at the newest latch of an identifier. -/
def latchOn (task : Nat) (identifier : String) : List Latch → List Latch
  | [] => []
  | latch :: others =>
    if latch.identifier == identifier then
      { latch with waiters := latch.waiters ++ [task] } :: others
    else latch :: latchOn task identifier others

/-- Begins a load. -/
def beginLoad (host : Host) (task : Nat) (name : String) : Host :=
  match Registry.locate host.registry.settings name with
  | .error fault =>
    { host with registry := host.registry.strand name fault }.finish task (.fault fault)
  | .ok location =>
    let host := { host with calls := host.calls ++ [(location, name)] }
    match host.latches.find? (·.identifier == name) with
    | some { released := false, .. } =>
      { host.wait task (.fetch name location) with latches := latchOn task name host.latches }
    | _ => host.endLoad task name location

/-- Looks whether any pass is outstanding or noted, and waits for it. -/
def settle (host : Host) (task : Nat) : Host :=
  match host.outstanding, host.session.pending with
  | [], none => host.finish task .settled
  | [], some _ =>
    let remaining := (host.timers.find? (·.alarm.isRing)).map (·.time - host.clock)
    match remaining.filter (0.0 < ·) with
    | some delay =>
      { host.wait task .giveWay with
        timers := host.timers ++ [⟨host.clock + delay, .wake task⟩] }
    | none => (host.wait task .giveWay).signal task .go
  | outstanding, _ =>
    let host := host.wait task .settle
    let host := host.alter task fun old => { old with awaited := outstanding.length }
    outstanding.foldl (fun host other => host.onEnd other (.count task)) host

/-- Runs a task up to where it waits next. -/
def step (host : Host) (task : Nat) (signal : Signal) : Host :=
  match host.tasks[task]? with
  | none => host
  | some { condemned := true, .. } => host.finish task .cancelled
  | some old =>
    match old.point, signal with
    | .resolve identifier, _ => host.enter task identifier none
    | .run text, _ =>
      match host.session.begin text with
      | (session, none) => { host with session }.finish task (.result none)
      | (session, some pass) => { host with session }.enter task session.identifier (some pass)
    | .ask identifier pass, _ => host.ask task identifier pass
    | .receive pass, .loaded (.ok resolved) => host.deliver task pass resolved
    | .receive _, .loaded (.error fault) => host.finish task (.fault fault)
    | .receive _, .go => host
    | .load name, _ => host.beginLoad task name
    | .fetch name location, _ => host.endLoad task name location
    | .settle, _ => host.settle task
    | .giveWay, _ => (host.wait task .settle).signal task .go

/-- Counts an ended task for one that waits for several. -/
def countEnded (host : Host) (waiter : Nat) : Host :=
  match host.tasks[waiter]? with
  | some { awaited := 1, .. } =>
    (host.alter waiter fun old => { old with awaited := 0 }).signal waiter .go
  | some _ => host.alter waiter fun old => { old with awaited := old.awaited - 1 }
  | none => host

/-- Begins the pass of the noted text. -/
def ring (host : Host) : Host :=
  match host.session.ring with
  | (session, none) => { host with session }
  | (session, some text) =>
    let task := host.tasks.length
    { { host with session }.start { point := .run text, callbacks := [.discard] } with
      outstanding := host.outstanding ++ [task] }

/-- Does one job. -/
def perform (host : Host) : Job → Host
  | .step task signal => host.step task signal
  | .relay waiter outcome => host.signal waiter (.loaded outcome)
  | .discard task => { host with outstanding := host.outstanding.filter (· != task) }
  | .count waiter => host.countEnded waiter
  | .ring => host.ring
  | .wake task => host.signal task .go

/-- Whether a timer is due. -/
def isDue (host : Host) (timer : Timer) : Bool :=
  timer.time ≤ host.clock

/-- The timers that are due, the earliest first. -/
def dueTimers (host : Host) : List Timer :=
  (host.timers.filter host.isDue).mergeSort fun a b => a.time ≤ b.time

/-- One turn: adds the jobs of the timers that are due and does all jobs that are there. -/
def turn (host : Host) : Host :=
  let jobs := host.jobs ++ host.dueTimers.map (·.alarm.job)
  let host := { host with jobs := [], timers := host.timers.filter fun timer => !host.isDue timer }
  jobs.foldl perform host

/-- Whether there is nothing to do at this time. -/
def isQuiet (host : Host) : Bool :=
  host.jobs.isEmpty && !host.timers.any host.isDue

/-- Takes turns until there is nothing to do, at most the given number of them. -/
def turns : Nat → Host → Host
  | 0, host => host
  | limit + 1, host => if host.isQuiet then host else turns limit host.turn

/-- The number of turns after which everything waits. A task that ends lets at most one chain of
others go on: a load its passes, and these whoever waits for them to end. -/
def turnLimit : Nat := 100

/-- Takes turns until every task has ended or waits. -/
def drain (host : Host) : Host :=
  turns turnLimit host

end Host

end Highlighter
