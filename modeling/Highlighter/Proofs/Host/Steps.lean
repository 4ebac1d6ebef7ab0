import Highlighter.Proofs.Host.Landing

/-!
# What a step does to the traffic

Every step of a host is one of three changes of its traffic: moves, the end of a load, or the drop
of profiles. This is said once, in `Step.changes`, and everything that holds of all runs is derived
from it.

A job is taken out of the middle of a queue, so a host that has a job `job` to do is written as
`host.prepend (before ++ job :: after)`, where `host` holds what the job may add to.

## Main definitions

* `Registry.made` — the profile that a load makes of what was loaded
* `Host.landing` — how a load ends if it ends now
* `Host.Changes` — the three changes

## Main results

* `Registry.finish_of_uncached`, `Registry.ask_cases` — what the registry answers
* `Host.step_cases`, `Host.move_relay`, `Host.changes_obey` — what a job and a command do
* `Host.Step.changes` — what a step does
-/

namespace Highlighter

open Highlighter.Host

/-! ## What the registry answers -/

/-- Every name has a location, if there is a text for it to start from and one for it to end
with. -/
theorem Registry.exists_locate {settings : Settings} {base extension : String}
    (text : settings.baseLocation = .text base)
    (written : settings.profileExtension.plain? = .ok extension) (name : String) :
    ∃ location, locate settings name = .ok location := by
  rw [locate]
  split
  · exact ⟨_, rfl⟩
  · simp only [written, text]
    split <;> exact ⟨_, rfl⟩

/-- A name leads to the profile that is kept for it, to the fault that stranded it, to its load in
flight, or to a load that begins. -/
theorem Registry.askName_cases (registry : Registry) (name : String) :
    (∃ resolved, registry.profiles.lookup name = some resolved ∧
      (registry.askName name).outcome = .ok (registry, .ready resolved)) ∨
    (registry.profiles.lookup name = none ∧
      ∃ fault, registry.inflight.lookup name = some (.stranded fault) ∧
        (registry.askName name).outcome = .error fault) ∨
    (registry.inflight.lookup name = some .loading ∧
      (registry.askName name).outcome = .ok (registry, .waits name false)) ∨
    registry.profiles.lookup name = none ∧ registry.inflight.lookup name = none ∧
      (registry.askName name).outcome =
        .ok ({ registry with inflight := registry.inflight ++ [(name, .loading)] },
          .waits name true) := by
  rw [askName]
  cases cached : registry.profiles.lookup name with
  | some resolved => exact .inl ⟨resolved, rfl, rfl⟩
  | none =>
    cases flying : registry.inflight.lookup name with
    | none => exact .inr (.inr (.inr ⟨rfl, rfl, rfl⟩))
    | some flight =>
      cases flight with
      | loading => exact .inr (.inr (.inl ⟨rfl, rfl⟩))
      | stranded fault => exact .inr (.inl ⟨rfl, fault, rfl, rfl⟩)

section Answers

variable [PatternReader]

/-- The profile that a load makes of what was loaded. A load that fails makes the default
profile. -/
def Registry.made (registry : Registry) (name : String) (loaded : Run Value) : Resolved :=
  match (loaded >>= profileOf name).outcome with
  | .ok profile => ⟨.made registry.serial, profile⟩
  | .error _ => .default

/-- A load that ends keeps the profile that it made, if none is kept under its name. -/
theorem Registry.finish_of_uncached {registry : Registry} {name : String}
    (uncached : registry.profiles.lookup name = none) (location : String) (loaded : Run Value) :
    (registry.finish name location loaded).outcome = .ok
      ({ registry with
        profiles := registry.profiles ++ [(name, registry.made name loaded)]
        inflight := registry.inflight.filter (·.1 != name)
        serial := registry.serial + 1 }, registry.made name loaded) := by
  rw [finish, Run.outcome_bind_of_ok (Run.outcome_attempt _),
    Run.outcome_bind_of_ok (Run.outcome_note _)]
  simp only [uncached]
  rfl

/-- A literal mapping has nothing to do with loads. -/
theorem Registry.askLiteral_cases (registry : Registry) (key : String) (entries : Table) :
    (∃ fault, (registry.askLiteral key entries).outcome = .error fault) ∨
    ∃ next resolved, (registry.askLiteral key entries).outcome = .ok (next, resolved) ∧
      next.settings = registry.settings ∧ next.profiles = registry.profiles ∧
      next.inflight = registry.inflight := by
  rw [askLiteral]
  cases registry.literals.lookup key with
  | some resolved => exact .inr ⟨registry, resolved, rfl, rfl, rfl, rfl⟩
  | none =>
    rw [Run.outcome_bind_of_ok (Run.outcome_attempt _)]
    cases (Profile.ofMapping "custom" entries).outcome with
    | ok profile => exact .inr ⟨_, _, rfl, rfl, rfl, rfl⟩
    | error fault =>
      by_cases valueFault : fault.isValueFault = true
      · simp only [valueFault]
        exact .inr ⟨_, _, rfl, rfl, rfl, rfl⟩
      · simp only [valueFault]
        exact .inl ⟨fault, rfl⟩

/-- An identifier leads to an end, to a load in flight, or to a load that begins. -/
theorem Registry.ask_cases (registry : Registry) (identifier : Identifier) :
    (∃ fault, (registry.ask identifier).outcome = .error fault) ∨
    (∃ next resolved, (registry.ask identifier).outcome = .ok (next, .ready resolved) ∧
      next.settings = registry.settings ∧ next.profiles = registry.profiles ∧
      next.inflight = registry.inflight) ∨
    (∃ name, registry.inflight.lookup name = some .loading ∧
      (registry.ask identifier).outcome = .ok (registry, .waits name false)) ∨
    ∃ name, registry.profiles.lookup name = none ∧ registry.inflight.lookup name = none ∧
      (registry.ask identifier).outcome =
        .ok ({ registry with inflight := registry.inflight ++ [(name, .loading)] },
          .waits name true) := by
  cases identifier with
  | nothing => exact .inr (.inl ⟨_, _, rfl, rfl, rfl, rfl⟩)
  | ready resolved => exact .inr (.inl ⟨_, _, rfl, rfl, rfl, rfl⟩)
  | other value => exact .inr (.inl ⟨_, _, rfl, rfl, rfl, rfl⟩)
  | literal key entries =>
    rcases registry.askLiteral_cases key entries with ⟨fault, failed⟩ | ⟨next, resolved, done, same⟩
    · exact .inl ⟨fault, Run.outcome_bind_of_error failed _⟩
    · exact .inr (.inl ⟨next, resolved, Run.outcome_bind_of_ok done _, same⟩)
  | name name =>
    rw [ask]
    split
    · exact .inr (.inl ⟨_, _, rfl, rfl, rfl, rfl⟩)
    rcases registry.askName_cases name with
      ⟨resolved, -, ready⟩ | ⟨-, fault, -, failed⟩ | ⟨loading, joins⟩ | begins
    · exact .inr (.inl ⟨_, _, ready, rfl, rfl, rfl⟩)
    · exact .inl ⟨fault, failed⟩
    · exact .inr (.inr (.inl ⟨name, loading, joins⟩))
    · exact .inr (.inr (.inr ⟨name, begins⟩))

end Answers

namespace Host

variable {host : Host} {t w : Nat} {task : Task}

/-! ## What the parts of a step do -/

@[simp]
theorem tasks_traffic : host.traffic.tasks = host.tasks :=
  rfl

@[simp]
theorem jobs_traffic : host.traffic.jobs = host.jobs :=
  rfl

theorem traffic_prepend (jobs : List Job) :
    (host.prepend jobs).traffic = { host.traffic with jobs := jobs ++ host.traffic.jobs } :=
  rfl

theorem traffic_alter (f : Task → Task) :
    (host.alter t f).traffic = { host.traffic with tasks := host.traffic.tasks.modify t f } :=
  rfl

theorem traffic_finish (found : host.tasks[t]? = some task) (outcome : Outcome) :
    (host.finish t outcome).traffic = { host.traffic with
      tasks := host.tasks.modify t (Task.conclude outcome)
      jobs := host.jobs ++ task.callbacks.map (callbackJob t outcome) } := by
  simp only [finish, found]
  cases task.number <;> rfl

theorem ended_finish {outcome : Outcome} (found : host.tasks[t]? = some task) :
    Ended (host.finish t outcome).tasks t outcome := by
  have tasks : (host.finish t outcome).tasks = _ := congrArg Traffic.tasks (traffic_finish found _)
  rw [tasks]
  exact at_modify_self.mpr ⟨task, found, rfl⟩

theorem signal_of_waiting (waiting : Waiting host.tasks w)
    (signal : Signal) :
    host.signal w signal = (host.alter w Task.rouse).add [.step w signal] := by
  obtain ⟨⟨point, phase, number, condemned, awaited, callbacks⟩, found, waiting⟩ := waiting
  cases waiting
  simp only [Host.signal, found]
  rfl

theorem traffic_signal (waiting : Waiting host.tasks w)
    (signal : Signal) :
    (host.signal w signal).traffic = { host.traffic with
      tasks := host.tasks.modify w Task.rouse, jobs := host.jobs ++ [.step w signal] } := by
  rw [signal_of_waiting waiting]
  rfl

theorem signal_eq_self (away : ¬ Waiting host.tasks w)
    (signal : Signal) : host.signal w signal = host := by
  rw [Host.signal]
  split
  · rename_i found
    exact absurd ⟨_, found, rfl⟩ away
  · rfl

/-- A load that is going on is found. -/
theorem exists_loadTask? {k : Nat} {name : String} (loading : Loading host.tasks k name) :
    ∃ j, host.loadTask? name = some j ∧ Loading host.tasks j name := by
  obtain ⟨isLoad, search, isLoad_iff⟩ : ∃ isLoad : Task → Bool,
      host.loadTask? name = host.tasks.findIdx? isLoad ∧ ∀ task, isLoad task = true ↔
        task.point.loads? = some name ∧ ∀ outcome, task.phase ≠ .ended outcome := by
    refine ⟨_, rfl, ?_⟩
    rintro ⟨point, phase⟩
    cases phase <;> cases point <;> simp [Point.loads?]
  rw [search]
  cases found : host.tasks.findIdx? isLoad with
  | none =>
    -- The search goes through all tasks, so it cannot have missed this one.
    obtain ⟨task, at_k, loads⟩ := loading
    have missed := List.findIdx?_eq_none_iff.mp found task (List.mem_of_getElem? at_k)
    exact absurd (missed.symm.trans ((isLoad_iff task).mpr loads)) Bool.false_ne_true
  | some j =>
    obtain ⟨lt, loads, -⟩ := List.findIdx?_eq_some_iff_getElem.mp found
    exact ⟨j, rfl, _, List.getElem?_eq_getElem lt, (isLoad_iff _).mp loads⟩

theorem onEnd_of_going {k : Nat} {name : String} (loading : Loading host.tasks k name) (t : Nat) :
    host.onEnd k (.relay t) = host.alter k (Task.tell t) := by
  rw [onEnd]
  split
  · rename_i found
    exact absurd rfl ((loading.of_eq found).2 _)
  · rfl

/-- Waits for the load of a name, and is told when it ends. -/
def join (host : Host) (t : Nat) (name : String) : Host :=
  match (host.wait t (.receive none)).loadTask? name with
  | some loading => (host.wait t (.receive none)).onEnd loading (.relay t)
  | none => host.wait t (.receive none)

theorem exists_join {name : String} {k : Nat} (loading : Loading host.tasks k name) (ne : t ≠ k) :
    ∃ j, Loading host.tasks j name ∧ host.join t name =
      (host.alter t (Task.rest (.receive none))).alter j (Task.tell t) := by
  have waits : Loading (host.wait t (.receive none)).tasks k name :=
    (at_modify_of_ne ne.symm).mpr loading
  obtain ⟨j, found, going⟩ := exists_loadTask? waits
  have same : Loading host.tasks j name := going.of_modify fun _ _ ⟨loads, _⟩ => nomatch loads
  refine ⟨j, same, ?_⟩
  rw [join, found]
  exact onEnd_of_going going t

/-! ## Moves of a host -/

open Relation Traffic

section Moves

variable {before after : List Job} {signal : Signal}

theorem jobs_prepend_middle (job : Job) :
    (host.prepend (before ++ job :: after)).traffic.jobs =
      before ++ job :: (after ++ host.jobs) := by
  simp [traffic_prepend]

/-- A task that is not a load ends. -/
theorem move_finish {other : Host} {outcome : Outcome} (same : other.traffic = host.traffic)
    (found : host.tasks[t]? = some task) (quiet : task.callbacks = [])
    (resolver : task.point.loads? = none) (closes : Closes task signal outcome) :
    Move (host.prepend (before ++ .step t signal :: after)).traffic
      ((other.finish t outcome).prepend (before ++ after)).traffic := by
  have tasks : other.tasks = host.tasks := congrArg Traffic.tasks same
  have jobs : other.jobs = host.jobs := congrArg Traffic.jobs same
  have move : Move (host.prepend (before ++ .step t signal :: after)).traffic _ :=
    .closed (jobs_prepend_middle _) ⟨task, found, resolver, closes⟩
  have ended : (other.finish t outcome).traffic = _ := traffic_finish (tasks ▸ found) outcome
  simpa [traffic_prepend, ended, same, tasks, jobs, quiet] using move

/-- A task that asks for a name waits for the load of the name. -/
theorem move_join {other : Host} {k : Nat} {name : String} (same : other.traffic = host.traffic)
    (asks : Asks host.tasks t) (loading : Loading host.tasks k name) :
    Move (host.prepend (before ++ .step t signal :: after)).traffic
      ((other.join t name).prepend (before ++ after)).traffic := by
  have tasks : other.tasks = host.tasks := congrArg Traffic.tasks same
  have going : Loading other.tasks k name := tasks ▸ loading
  obtain ⟨j, going, joined⟩ := exists_join going (ne_of_asks asks loading)
  have move : Move (host.prepend (before ++ .step t signal :: after)).traffic _ :=
    .joined (jobs_prepend_middle _) asks (tasks ▸ going)
  simpa [joined, traffic_prepend, traffic_alter, same] using move

/-- A load ends. -/
theorem lands_finish {other : Host} {name : String} {outcome : Outcome}
    {profiles : List (String × Resolved)} {inflight : List (String × Flight)}
    (registers : Registers (host.prepend (before ++ .step t signal :: after)).traffic name outcome
      profiles inflight)
    (same : other.traffic = { host.traffic with profiles, inflight })
    (found : host.tasks[t]? = some task) (loads : task.point.loads? = some name) :
    Lands (host.prepend (before ++ .step t signal :: after)).traffic t name outcome
      ((other.finish t outcome).prepend (before ++ after)).traffic := by
  have tasks : other.tasks = host.tasks := congrArg Traffic.tasks same
  have jobs : other.jobs = host.jobs := congrArg Traffic.jobs same
  have lands : Lands (host.prepend (before ++ .step t signal :: after)).traffic t name outcome _ :=
    .intro (jobs_prepend_middle _) found loads registers
  have ended : (other.finish t outcome).traffic = _ := traffic_finish (tasks ▸ found) outcome
  simpa [traffic_prepend, ended, same, tasks, jobs] using lands

/-- What the relay to a task does: it goes on if it waits. -/
theorem move_relay {result : Except Fault Resolved} :
    Move (host.prepend (before ++ .relay w result :: after)).traffic
      ((host.signal w (.loaded result)).prepend (before ++ after)).traffic := by
  by_cases waiting : Waiting host.tasks w
  · have move : Move (host.prepend (before ++ .relay w result :: after)).traffic _ :=
      .told (jobs_prepend_middle _) waiting
    simpa [traffic_prepend, traffic_signal waiting] using move
  · have move : Move (host.prepend (before ++ .relay w result :: after)).traffic _ :=
      .untold (jobs_prepend_middle _) waiting
    simpa [traffic_prepend, signal_eq_self waiting] using move

end Moves

theorem mem_latchOn {identifier : String} {latches : List Latch}
    (mem : w ∈ (latchOn t identifier latches).flatMap (·.waiters)) :
    w = t ∨ w ∈ latches.flatMap (·.waiters) := by
  induction latches with
  | nil => cases mem
  | cons latch latches ih =>
    rw [latchOn] at mem
    split at mem
    · simp only [List.flatMap_cons, List.mem_append, List.mem_singleton] at mem ⊢
      rcases mem with (old | new) | other
      · exact .inr (.inl old)
      · exact .inl new
      · exact .inr (.inr other)
    · simp only [List.flatMap_cons, List.mem_append] at mem ⊢
      rcases mem with old | other
      · exact .inr (.inl old)
      · exact (ih other).imp_right .inr

theorem moves_cancel {number : Nat}
    (numbered : At host.tasks t fun task => task.number = some number) :
    ReflTransGen Move host.traffic (host.cancel t).traffic := by
  have condemned : Move host.traffic (host.alter t Task.condemn).traffic :=
    .condemned (numbered.imp fun _ _ eq => by simp [eq])
  by_cases waiting : Waiting (host.alter t Task.condemn).tasks t
  · refine .tail (.single condemned) ?_
    have target : At (host.alter t Task.condemn).tasks t fun task =>
        task.phase = .waiting ∧ (task.condemned = true ∨ task.point.loads? ≠ none) :=
      at_modify_self.mpr ((at_modify_self.mp waiting).imp fun _ _ waiting => ⟨waiting, .inl rfl⟩)
    exact (traffic_signal waiting .go) ▸ .roused target
  · -- A task that does not wait is only marked, and ends when it is run.
    refine .single ?_
    rw [show host.cancel t = _ from signal_eq_self waiting .go]
    exact condemned

/-- Loads that have waited at a latch go on. -/
theorem moves_signalAll {waiters : List Nat}
    (loads : ∀ w ∈ waiters, ∃ name, Loads host.tasks w name) :
    ReflTransGen Move host.traffic (host.signalAll waiters).traffic := by
  induction waiters generalizing host with
  | nil => exact .refl
  | cons w waiters ih =>
    obtain ⟨name, loadsName⟩ := loads w List.mem_cons_self
    have rest := fun v mem => loads v (List.mem_cons_of_mem w mem)
    by_cases waiting : Waiting host.tasks w
    · have signalled := traffic_signal waiting .go
      have roused : Move host.traffic (host.signal w .go).traffic :=
        signalled ▸ .roused (waiting.imp fun _ found waiting =>
          ⟨waiting, .inr (by simp [loadsName.of_eq found])⟩)
      refine .head roused (ih ?_)
      have tasks : (host.signal w .go).tasks = host.tasks.modify w Task.rouse :=
        congrArg Traffic.tasks signalled
      intro v mem
      obtain ⟨other, loadsOther⟩ := rest v mem
      exact ⟨other, tasks ▸ At.modify loadsOther fun _ _ => id⟩
    · rw [show host.signalAll (w :: waiters) = (host.signal w .go).signalAll waiters from rfl,
        signal_eq_self waiting]
      exact ih rest

theorem mem_releaseLatch {identifier : String} {latches : List Latch} :
    (∀ w ∈ (releaseLatch identifier latches).1.flatMap (·.waiters),
      w ∈ latches.flatMap (·.waiters)) ∧
    ∀ w ∈ (releaseLatch identifier latches).2, w ∈ latches.flatMap (·.waiters) := by
  induction latches with
  | nil => simp [releaseLatch]
  | cons latch latches ih =>
    rw [releaseLatch]
    split
    · simp +contextual
    · simp only [List.flatMap_cons, List.mem_append]
      exact ⟨fun w => Or.imp_right (ih.1 w), fun w mem => .inr (ih.2 w mem)⟩

/-! ## What a task does -/

variable [PatternReader]

theorem ask_of_error {identifier : Identifier} {fault : Fault}
    (failed : (host.registry.ask identifier).outcome = .error fault) :
    host.ask t identifier none =
      (host.record (host.registry.ask identifier)).finish t (.fault fault) := by
  simp only [ask, failed]

theorem ask_of_ready {identifier : Identifier} {next : Registry} {resolved : Resolved}
    (ready : (host.registry.ask identifier).outcome = .ok (next, .ready resolved)) :
    host.ask t identifier none =
      { host.record (host.registry.ask identifier) with registry := next }.finish t
        (.profile resolved) := by
  simp only [ask, ready, deliver]

theorem ask_of_joins {identifier : Identifier} {next : Registry} {name : String}
    (joins : (host.registry.ask identifier).outcome = .ok (next, .waits name false)) :
    host.ask t identifier none =
      { host.record (host.registry.ask identifier) with registry := next }.join t name := by
  simp only [ask, joins, join]
  rfl

theorem ask_of_begins {identifier : Identifier} {next : Registry} {name : String}
    (begins : (host.registry.ask identifier).outcome = .ok (next, .waits name true)) :
    host.ask t identifier none =
      ({ host.record (host.registry.ask identifier) with registry := next }.start
        { point := .load name }).join t name := by
  simp only [ask, begins, join]
  rfl

/-- How a load of a name ends if it ends now. -/
def landing (host : Host) (name : String) : Outcome :=
  match Registry.locate host.registry.settings name with
  | .ok location => .profile (host.registry.made name (host.loader.answer location name))
  | .error fault => .fault fault

theorem step_of_condemned (found : host.tasks[t]? = some task) (condemned : task.condemned = true)
    (signal : Signal) : host.step t signal = host.finish t .cancelled := by
  obtain ⟨point, phase, number, _, awaited, callbacks⟩ := task
  cases condemned
  simp only [step, found]

theorem step_of_resolve {identifier : Identifier} (found : host.tasks[t]? = some task)
    (free : task.condemned = false) (point : task.point = .resolve identifier)
    (ungated : host.gated = false) (signal : Signal) :
    host.step t signal = host.ask t identifier none := by
  obtain ⟨_, phase, number, _, awaited, callbacks⟩ := task
  cases free
  cases point
  simp [step, found, enter, ungated]

theorem step_of_loaded {result : Except Fault Resolved} (found : host.tasks[t]? = some task)
    (free : task.condemned = false) (point : task.point = .receive none) :
    host.step t (.loaded result) = host.finish t (match result with
      | .ok resolved => .profile resolved
      | .error fault => .fault fault) := by
  obtain ⟨_, phase, number, _, awaited, callbacks⟩ := task
  cases free
  cases point
  cases result <;> simp only [step, found, deliver]

theorem step_of_load {name : String} (found : host.tasks[t]? = some task)
    (free : task.condemned = false) (point : task.point = .load name) (signal : Signal) :
    host.step t signal = host.beginLoad t name := by
  obtain ⟨_, phase, number, _, awaited, callbacks⟩ := task
  cases free
  cases point
  simp only [step, found]

theorem step_of_fetch {name location : String} (found : host.tasks[t]? = some task)
    (free : task.condemned = false) (point : task.point = .fetch name location) (signal : Signal) :
    host.step t signal = host.endLoad t name location := by
  obtain ⟨_, phase, number, _, awaited, callbacks⟩ := task
  cases free
  cases point
  simp only [step, found]

section Work

variable {before after : List Job} {signal : Signal}

theorem moves_ask {identifier : Identifier}
    (sound : (host.prepend (before ++ .step t signal :: after)).traffic.Sound)
    (found : host.tasks[t]? = some task) (point : task.point = .resolve identifier)
    (quiet : task.callbacks = []) :
    ReflTransGen Move (host.prepend (before ++ .step t signal :: after)).traffic
      ((host.ask t identifier none).prepend (before ++ after)).traffic := by
  have asks : Asks host.tasks t := ⟨task, found, identifier, point⟩
  have ends : ∀ {other : Host} {outcome : Outcome}, other.traffic = host.traffic →
      ReflTransGen Move (host.prepend (before ++ .step t signal :: after)).traffic
        ((other.finish t outcome).prepend (before ++ after)).traffic := fun same =>
    .single (move_finish same found quiet (by simp [point]) (.answered point _))
  rcases host.registry.ask_cases identifier with
    ⟨fault, failed⟩ | ⟨next, resolved, ready, settings, profiles, inflight⟩ |
    ⟨name, flying, joins⟩ | ⟨name, uncached, idle, begins⟩
  · rw [ask_of_error failed]
    exact ends rfl
  · rw [ask_of_ready ready]
    exact ends (by simp [traffic, record, settings, profiles, inflight])
  · rw [ask_of_joins joins]
    obtain ⟨k, loading⟩ := sound.flights.loading flying
    exact .single (move_join rfl asks loading)
  · -- First the load begins, then the task joins it as it would join an older one.
    rw [ask_of_begins begins]
    generalize started : Host.start _ _ = next
    have begun : next.traffic = { host.traffic with
        inflight := host.traffic.inflight ++ [(name, .loading)]
        tasks := host.traffic.tasks ++ [{ point := .load name }]
        jobs := host.traffic.jobs ++ [.step host.traffic.tasks.length .go] } := by
      rw [← started]
      rfl
    have began : Move (host.prepend (before ++ .step t signal :: after)).traffic
        (next.prepend (before ++ .step t signal :: after)).traffic := by
      have move : Move (host.prepend (before ++ .step t signal :: after)).traffic _ :=
        .began uncached idle
      simpa [traffic_prepend, begun] using move
    have tasks : next.tasks = host.tasks ++ [{ point := .load name }] :=
      congrArg Traffic.tasks begun
    have loading : Loading next.tasks host.tasks.length name := by
      rw [tasks]
      exact at_append.mpr (.inr ⟨rfl, rfl, nofun⟩)
    refine .tail (.single began) (move_join rfl ?_ loading)
    rw [tasks]
    exact at_append.mpr (.inl asks)

/-- A load that is answered ends with the profile that it makes. -/
theorem lands_endLoad {name location : String} (calls : List (String × String))
    (uncached : host.registry.profiles.lookup name = none)
    (located : Registry.locate host.registry.settings name = .ok location)
    (found : host.tasks[t]? = some task) (loads : task.point.loads? = some name) :
    Lands (host.prepend (before ++ .step t signal :: after)).traffic t name (host.landing name)
      (({ host with calls }.endLoad t name location).prepend (before ++ after)).traffic := by
  have landing : host.landing name =
      .profile (host.registry.made name (host.loader.answer location name)) := by
    simp only [landing, located]
  have finished := Registry.finish_of_uncached uncached location (host.loader.answer location name)
  rw [endLoad, landing]
  simp only [finished]
  exact lands_finish (.loaded _) rfl found loads

/-- A load that begins is held back at a latch, or ends. -/
theorem beginLoad_cases {name : String} (uncached : host.registry.profiles.lookup name = none)
    (found : host.tasks[t]? = some task) (loads : task.point.loads? = some name)
    (going : ∀ outcome, task.phase ≠ .ended outcome) :
    Move (host.prepend (before ++ .step t signal :: after)).traffic
      ((host.beginLoad t name).prepend (before ++ after)).traffic ∨
    Lands (host.prepend (before ++ .step t signal :: after)).traffic t name (host.landing name)
      ((host.beginLoad t name).prepend (before ++ after)).traffic := by
  rw [beginLoad]
  cases located : Registry.locate host.registry.settings name with
  | error fault =>
    have landing : host.landing name = .fault fault := by simp only [landing, located]
    rw [landing]
    exact .inr (lands_finish (.stranded located) rfl found loads)
  | ok location =>
    simp only
    split
    · have latches : ∀ w ∈ (latchOn t name host.latches).flatMap (·.waiters),
          w = t ∨ w ∈ host.latches.flatMap (·.waiters) := fun _ => mem_latchOn
      have move : Move (host.prepend (before ++ .step t signal :: after)).traffic _ :=
        .held (jobs_prepend_middle _) ⟨task, found, loads, going⟩ located latches
      rw [← List.append_assoc] at move
      exact .inl move
    · exact .inr (lands_endLoad _ uncached located found loads)

/-- What the job of a task does: a load ends now, as it ends now, or none ends. -/
theorem step_cases (sound : (host.prepend (before ++ .step t signal :: after)).traffic.Sound) :
    ReflTransGen Move (host.prepend (before ++ .step t signal :: after)).traffic
      ((host.step t signal).prepend (before ++ after)).traffic ∨
    ∃ name, Lands (host.prepend (before ++ .step t signal :: after)).traffic t name
      (host.landing name) ((host.step t signal).prepend (before ++ after)).traffic := by
  have mem : .step t signal ∈ (host.prepend (before ++ .step t signal :: after)).traffic.jobs := by
    rw [jobs_prepend_middle]
    simp
  obtain ⟨task, found, scheduled⟩ := sound.scheduled mem
  replace found : host.tasks[t]? = some task := found
  have proper := sound.properAt found
  have going : ∀ outcome, task.phase ≠ .ended outcome := by simp [scheduled]
  by_cases condemned : task.condemned = true
  · rw [step_of_condemned found condemned]
    have resolver := proper.resolver_of_condemned condemned
    have quiet := proper.quiet resolver
    exact .inl (.single (move_finish rfl found quiet resolver (.cancelled condemned)))
  · have free : task.condemned = false := by simpa using condemned
    cases proper with
    | asker point quiet =>
      rw [step_of_resolve found free point sound.ungated]
      exact .inl (moves_ask sound found point quiet)
    | receiver point quiet =>
      obtain ⟨result, rfl⟩ := sound.told mem ⟨task, found, point, free⟩
      rw [step_of_loaded found free point]
      refine .inl (.single (move_finish rfl found quiet (by simp [point]) ?_))
      cases result with
      | ok resolved => exact .loaded rfl
      | error fault => exact .failed rfl
    | @load name load =>
      -- A load that is run is in flight, so that nothing is kept under its name.
      have loads := load.point
      have loading : Loading host.tasks t name := ⟨task, found, loads, going⟩
      have uncached : host.registry.profiles.lookup name = none :=
        sound.flights.uncached (by simp [sound.flights.inflight loading])
      cases point : task.point with
      | load other =>
        obtain rfl : other = name := by simpa [point] using loads
        rw [step_of_load found free point]
        exact (beginLoad_cases uncached found loads going).imp .single fun lands => ⟨_, lands⟩
      | fetch other location =>
        obtain rfl : other = name := by simpa [point] using loads
        rw [step_of_fetch found free point]
        exact .inr ⟨_, lands_endLoad _ uncached (load.located point) found loads⟩
      | _ => simp [point, Point.loads?] at loads

end Work

/-! ## What a step does -/

/-- What becomes of a host in a step. -/
inductive Changes (host next : Host) : Prop
  | moves (moves : ReflTransGen Move host.traffic next.traffic)
  /-- A load ends, as it ends now. -/
  | lands {t : Nat} {name : String}
      (lands : Lands host.traffic t name (host.landing name) next.traffic)
  | drops (identifier : Identifier) (drops : next = (host.obey (.invalidate identifier)).1)

theorem changes_obey (sound : host.traffic.Sound) {command : Command}
    (forRegistry : command.isForRegistry = true) : Changes host (host.obey command).1 := by
  cases command with
  | resolve identifier => exact .moves (.single (.asked identifier host.numbered))
  | cancel number =>
    simp only [obey]
    split
    · rename_i task found
      obtain ⟨lt, numbered, -⟩ := List.findIdx?_eq_some_iff_getElem.mp found
      exact .moves (moves_cancel ⟨_, List.getElem?_eq_getElem lt, eq_of_beq numbered⟩)
    · exact .moves .refl
  | hold identifier => exact .moves .refl
  | release identifier =>
    obtain ⟨fewer, waiters⟩ := @mem_releaseLatch identifier host.latches
    have unlatched : Move host.traffic
        { host with latches := (releaseLatch identifier host.latches).1 }.traffic :=
      .unlatched fewer
    refine .moves (.head unlatched (moves_signalAll ?_))
    exact fun w mem => sound.latched (waiters w mem)
  | cached | contains | isLoading | locate => exact .moves .refl
  | invalidate identifier => exact .drops identifier rfl
  | _ => cases forRegistry

theorem Does.changes {next : Host} {job : Job} (sound : host.traffic.Sound)
    (does : host.Does job next) : Changes host next := by
  cases does with
  | intro host before after =>
    have mem : job ∈ (host.prepend (before ++ job :: after)).traffic.jobs := by
      rw [jobs_prepend_middle]
      simp
    rcases sound.kinds mem with ⟨t, signal, rfl⟩ | ⟨w, result, rfl⟩
    · rcases step_cases sound with moves | ⟨name, lands⟩
      · exact .moves moves
      · exact .lands lands
    · exact .moves (.single move_relay)

theorem Step.changes {next : Host} (sound : host.traffic.Sound) (step : Step host next) :
    Changes host next := by
  cases step with
  | obey forRegistry => exact changes_obey sound forRegistry
  | supply => exact .moves .refl
  | report => exact .moves .refl
  | work does => exact does.changes sound

end Host
end Highlighter
