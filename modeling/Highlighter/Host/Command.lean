import Highlighter.Host.Basic

/-!
# Commands of a host

What can be asked of a host from outside. A command acts at once; the tasks that it starts or wakes
run afterwards, in `drain`. Two commands move the clock: `advance` moves it by a span of time, and
`settle` moves it from timer to timer until no pass is outstanding.

Main definitions: `Command`, `Response`, `Host.obey`.
-/

namespace Highlighter

open Highlighter.Host

namespace Host

/-- A command. -/
inductive Command where
  | resolve (identifier : Identifier)
  | cancel (number : Nat)
  | hold (identifier : String)
  | release (identifier : String)
  | cached (identifier : Identifier)
  | contains (identifier : Identifier)
  | isLoading (identifier : Identifier)
  | locate (identifier : Identifier)
  | invalidate (identifier : Identifier)
  | run (text : String)
  | notify (text : String)
  | advance (seconds : Float)
  | settle
  | setProfile (identifier : Identifier)
  | close
  | fail (outage : Outage)
  | closeGate
  | openGate
  | spans
  | describe

/-- What a command tells. -/
inductive Response where
  | nothing
  | flag (value : Bool)
  | text (value : String)
  | profile (resolved : Option Resolved)
  | spans (visible : List VisibleSpan)
  | fault (fault : Fault)

/-- The response to something that may fail. -/
def Response.ofExcept {α : Type} (respond : α → Response) : Except Fault α → Response
  | .ok value => respond value
  | .error cause => .fault cause

/-- Releases the newest latch of an identifier and gives the loads that waited at it. -/
def releaseLatch (identifier : String) : List Latch → List Latch × List Nat
  | [] => ([], [])
  | latch :: others =>
    if latch.identifier == identifier then
      ({ latch with released := true, waiters := [] } :: others, latch.waiters)
    else
      let (others, waiters) := releaseLatch identifier others
      (latch :: others, waiters)

/-- Signals tasks one after the other. -/
def signalAll (host : Host) (tasks : List Nat) : Host :=
  tasks.foldl (fun host task => host.signal task .go) host

/-- The timers without the one of the noted text. -/
def otherTimers (host : Host) : List Timer :=
  host.timers.filter fun timer => !timer.alarm.isRing

/-- Takes note of a changed text and sets the timer for it. -/
def notify (host : Host) (text : String) : Host :=
  if host.session.closed then host
  else
    let time := host.clock + host.session.settings.delay
    { host with
      session := host.session.notify text
      timers := host.otherTimers ++ [⟨time, .ring⟩] }

/-- Ends the session and cancels the outstanding passes. -/
def close (host : Host) : Host :=
  let (session, run) := host.session.close
  let cancelled := host.outstanding.foldl cancel { host with timers := host.otherTimers }
  { cancelled with session, outstanding := [] }.record run

/-- The time of the earliest timer. -/
def nextTime? (host : Host) : Option Float :=
  host.timers.foldl (fun earliest timer =>
    match earliest with
    | some time => some (if timer.time < time then timer.time else time)
    | none => some timer.time) none

variable [PatternReader]

/-- Moves the clock, at most the given number of times, from timer to timer until the target, and
lets the tasks run each time. -/
def advanceTo (target : Float) : Nat → Host → Host
  | 0, host => host
  | limit + 1, host =>
    match host.nextTime? with
    | some time =>
      if time ≤ target then
        let clock := if host.clock < time then time else host.clock
        advanceTo target limit { host with clock }.drain
      else { host with clock := target }.drain
    | none => { host with clock := target }.drain

/-- Whether a task has ended. -/
def isEnded (host : Host) (task : Nat) : Bool :=
  match host.tasks[task]? with
  | some task => task.isEnded
  | none => true

/-- Moves the clock, at most the given number of times, from timer to timer until a task has ended,
and lets the tasks run each time. -/
def settleTask (task : Nat) : Nat → Host → Host
  | 0, host => host
  | limit + 1, host =>
    if host.isEnded task then host
    else match host.nextTime? with
      | some time =>
        let clock := if host.clock < time then time else host.clock
        settleTask task limit { host with clock }.drain
      | none => host

/-- The number of times for which the clock is moved at most. Every timer that rings leads to at
most one more timer for each task. -/
def moveLimit (host : Host) : Nat :=
  4 * (host.timers.length + host.tasks.length + 1)

/-- Acts on a command. -/
def obey (host : Host) : Command → Host × Response
  | .resolve identifier => (host.startNumbered (.resolve identifier), .nothing)
  | .run text => (host.startNumbered (.run text), .nothing)
  | .cancel number =>
    match host.tasks.findIdx? (·.number == some number) with
    | some task => (host.cancel task, .nothing)
    | none => (host, .nothing)
  | .hold identifier => ({ host with latches := { identifier } :: host.latches }, .nothing)
  | .release identifier =>
    let (latches, waiters) := releaseLatch identifier host.latches
    ({ host with latches }.signalAll waiters, .nothing)
  | .cached identifier => (host, .profile (host.registry.cached identifier))
  | .contains identifier => (host, .flag (host.registry.contains identifier))
  | .isLoading identifier => (host, .ofExcept .flag (host.registry.isLoading identifier))
  | .locate identifier => (host, .ofExcept .text (host.registry.location identifier))
  | .invalidate identifier =>
    ({ host with registry := host.registry.invalidate identifier }, .nothing)
  | .notify text => (host.notify text, .nothing)
  | .advance seconds =>
    (advanceTo (host.clock + seconds) host.moveLimit host.drain, .nothing)
  | .settle =>
    let task := host.tasks.length
    let host := (host.start { point := .settle }).drain
    let host := settleTask task host.moveLimit host
    (host, .flag (host.isEnded task))
  | .setProfile identifier =>
    ({ host with session := host.session.setProfile identifier }, .nothing)
  | .close => (host.close, .nothing)
  | .fail outage =>
    let renderer := { host.session.layering.renderer with outage }
    let layering := { host.session.layering with renderer }
    ({ host with session := { host.session with layering } }, .nothing)
  | .closeGate => ({ host with gated := true }, .nothing)
  | .openGate =>
    ({ host with gated := false, gateWaiters := [] }.signalAll host.gateWaiters, .nothing)
  | .spans =>
    (host, .spans (host.session.layering.renderer.canvas.visibleSpans host.session.text))
  | .describe => (host, .text host.session.shown)

/-- Forgets what has been reported. -/
def reported (host : Host) : Host :=
  { host with calls := [], notices := [], ended := [] }

end Host

end Highlighter
