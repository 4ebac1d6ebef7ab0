import Mathlib.Logic.Relation
import Highlighter.Host.Command

/-!
# Schedules of a registry

A host does its jobs in the order in which they were added. What is said about the registry does not
rest on that order, so here it is left open: a step is a command for the registry, a change of what
the loader answers, or any one of the jobs that are there. The host's own schedule is one of those
that steps allow.

## Main definitions

* `Host.opened` — a host whose registry is new
* `Host.Does` — a host does one of its jobs, whichever it is
* `Host.Step`, `Host.Reaches` — what can happen next to a registry, and what steps can lead to

## Main results

* `Host.reaches_turn` — a turn of the host consists of steps, if no timer is set
* `Host.reaches_obeyAll` — so does what a host does when it is given commands
-/

namespace Highlighter

open Highlighter.Host

namespace Host

/-- Whether a command is for the registry. The others are for the session. -/
def Command.isForRegistry : Command → Bool
  | .resolve _ | .cancel _ | .hold _ | .release _ => true
  | .cached _ | .contains _ | .isLoading _ | .locate _ | .invalidate _ => true
  | _ => false

/-- A host that has not been asked for anything. -/
def opened (settings : Settings) (loader : Loader) (session : Session FaultyCanvas) : Host :=
  { registry := { settings }, loader, session }

/-- A host with jobs in front of its own. -/
def prepend (jobs : List Job) (host : Host) : Host :=
  { host with jobs := jobs ++ host.jobs }

variable [PatternReader]

/-- A host does one of its jobs, whichever it is. What the job adds comes after all the others. -/
inductive Does : Host → Job → Host → Prop
  | intro (host : Host) (before after : List Job) (job : Job) :
      Does (host.prepend (before ++ job :: after)) job
        ((host.perform job).prepend (before ++ after))

/-- What can happen next to a registry. -/
inductive Step : Host → Host → Prop
  /-- Somebody asks for a profile, gives up waiting, drops profiles, or holds loads back. -/
  | obey {host : Host} {command : Command} (forRegistry : command.isForRegistry = true) :
      Step host (host.obey command).1
  /-- From now on the loader answers differently. -/
  | supply {host : Host} (loader : Loader) : Step host { host with loader }
  /-- What has happened is reported. -/
  | report {host : Host} : Step host host.reported
  | work {host next : Host} {job : Job} (does : host.Does job next) : Step host next

/-- What steps can lead to. -/
def Reaches : Host → Host → Prop :=
  Relation.ReflTransGen Step

theorem Reaches.refl {host : Host} : Reaches host host :=
  Relation.ReflTransGen.refl

theorem Reaches.tail {host middle last : Host} (run : Reaches host middle)
    (step : Step middle last) : Reaches host last :=
  Relation.ReflTransGen.tail run step

theorem Reaches.head {host middle last : Host} (step : Step host middle)
    (run : Reaches middle last) : Reaches host last :=
  Relation.ReflTransGen.head step run

theorem Reaches.trans {host middle last : Host} (run : Reaches host middle)
    (rest : Reaches middle last) : Reaches host last :=
  Relation.ReflTransGen.trans run rest

/-! ## The schedule of the host -/

/-- A host does the jobs that are there, in their order. What they add is left for later. -/
def round (host : Host) : Host :=
  host.jobs.foldl perform { host with jobs := [] }

theorem reaches_foldl_perform (host : Host) (jobs rest : List Job) :
    Reaches (host.prepend (jobs ++ rest)) ((jobs.foldl perform host).prepend rest) := by
  induction jobs generalizing host with
  | nil => exact .refl
  | cons job jobs ih => exact .head (.work (.intro host [] (jobs ++ rest) job)) (ih _)

/-- A round does every job that is there. -/
theorem exists_does_of_mem_jobs {host : Host} {job : Job} (mem : job ∈ host.jobs) :
    ∃ before after, Reaches host before ∧ before.Does job after ∧ Reaches after host.round := by
  obtain ⟨front, back, split⟩ := List.append_of_mem mem
  have same : { host with jobs := [] }.prepend (front ++ job :: back) = host := by
    simp [prepend, ← split]
  have first := reaches_foldl_perform { host with jobs := [] } front (job :: back)
  have last := reaches_foldl_perform
    ((front.foldl perform { host with jobs := [] }).perform job) back []
  refine ⟨_, _, same ▸ first, .intro _ [] back job, ?_⟩
  simpa [round, split, prepend] using last

theorem reaches_round (host : Host) : Reaches host host.round := by
  have same : { host with jobs := [] }.prepend (host.jobs ++ []) = host := by simp [prepend]
  have run := reaches_foldl_perform { host with jobs := [] } host.jobs []
  rw [same] at run
  exact run

/-- A turn of the host is a run, if no timer is set. -/
theorem reaches_turn {host : Host} (timeless : host.timers = []) : Reaches host host.turn := by
  have turn : host.turn = host.round := by simp [Host.turn, round, dueTimers, timeless]
  rw [turn]
  exact host.reaches_round

/-- A host obeys commands one after the other, with some rounds after each. -/
def obeyAll (host : Host) (rounds : Nat) (commands : List Command) : Host :=
  commands.foldl (fun host command => Nat.repeat round rounds (host.obey command).1) host

theorem reaches_repeat_round (rounds : Nat) (host : Host) :
    Reaches host (Nat.repeat round rounds host) := by
  induction rounds with
  | zero => exact .refl
  | succ rounds ih => exact ih.trans (reaches_round _)

theorem reaches_obeyAll {rounds : Nat} {commands : List Command} (host : Host)
    (forRegistry : commands.all Command.isForRegistry = true) :
    Reaches host (host.obeyAll rounds commands) := by
  induction commands generalizing host with
  | nil => exact .refl
  | cons command commands ih =>
    rw [List.all_cons, Bool.and_eq_true] at forRegistry
    have obeyed : Reaches host (host.obey command).1 := .tail .refl (.obey forRegistry.1)
    have waited := obeyed.trans (reaches_repeat_round rounds _)
    exact waited.trans (ih _ forRegistry.2)

end Host

end Highlighter
