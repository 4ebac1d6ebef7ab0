import Highlighter.Host.Basic
import Highlighter.Proofs.Host.Tasks

/-!
# The traffic of loads

Of a host, the part that its loads depend on is its traffic. Whatever a host does, its traffic
changes by moves, by the end of a load, or because a profile is dropped. Moves are the small changes
that each concern one task; this module says what they are and that they keep the traffic sound.

The heart of `Sound` is `Flights`: a name that is in flight has exactly one load that has not ended,
unless it is stranded, and it is not cached. A load begins only for a name that is neither, which is
why no second one can begin before the first has ended. `Relays` carries those who wait: whoever is
not cancelled has a load to wait for, or the relay is on its way that says how the load has ended.

## Main definitions

* `Host.Traffic`, `Host.traffic` — what the loads of a host depend on
* `Host.Traffic.Move` — the changes that end no load and drop no profile
* `Host.Traffic.IsLoad`, `Host.Traffic.Proper` — what holds of a load, and of every task
* `Host.Traffic.Sound` — what holds of the traffic of every registry

## Main results

* `Host.Traffic.Move.loads_cases`, `Host.Traffic.Sound.awaits_cases`,
  `Host.Traffic.Sound.ended_cases` — what a move changes for loads, for those who wait and for tasks
  that have ended
* `Host.Traffic.Sound.move` — moves keep the traffic sound
-/

namespace Highlighter.Host

/-! ## The traffic of a host -/

/-- What the loads of a host depend on. -/
structure Traffic where
  settings : Settings
  profiles : List (String × Resolved)
  inflight : List (String × Flight)
  /-- The loads that wait at latches. -/
  latched : List Nat
  gated : Bool
  tasks : List Task
  jobs : List Job
  timers : List Timer

/-- The traffic of a host. -/
def traffic (host : Host) : Traffic where
  settings := host.registry.settings
  profiles := host.registry.profiles
  inflight := host.registry.inflight
  latched := host.latches.flatMap (·.waiters)
  gated := host.gated
  tasks := host.tasks
  jobs := host.jobs
  timers := host.timers

namespace Traffic

/-- Why a task that is not a load ends with an outcome when it is run. -/
inductive Closes (task : Task) (signal : Signal) : Outcome → Prop
  | cancelled (condemned : task.condemned = true) : Closes task signal .cancelled
  /-- It is answered at once. -/
  | answered {identifier : Identifier} (asks : task.point = .resolve identifier)
      (outcome : Outcome) : Closes task signal outcome
  | loaded {resolved : Resolved} (told : signal = .loaded (.ok resolved)) :
      Closes task signal (.profile resolved)
  | failed {fault : Fault} (told : signal = .loaded (.error fault)) :
      Closes task signal (.fault fault)

/-- What can become of the traffic without a load ending and without a profile being dropped. -/
inductive Move : Traffic → Traffic → Prop
  /-- Loads leave a latch. -/
  | unlatched {d : Traffic} {latched : List Nat} (fewer : ∀ w ∈ latched, w ∈ d.latched) :
      Move d { d with latched }
  /-- Somebody asks for a profile. -/
  | asked {d : Traffic} (identifier : Identifier) (number : Nat) :
      Move d { d with
        tasks := d.tasks ++ [{ point := .resolve identifier, number := some number }]
        jobs := d.jobs ++ [.step d.tasks.length .go] }
  | condemned {d : Traffic} {t : Nat} (numbered : At d.tasks t fun task => task.number ≠ none) :
      Move d { d with tasks := d.tasks.modify t Task.condemn }
  /-- A waiting task goes on because it is condemned, or because it is a load that was held back. -/
  | roused {d : Traffic} {t : Nat}
      (waiting : At d.tasks t fun task =>
        task.phase = .waiting ∧ (task.condemned = true ∨ task.point.loads? ≠ none)) :
      Move d { d with
        tasks := d.tasks.modify t Task.rouse, jobs := d.jobs ++ [.step t .go] }
  /-- A waiting task is told how its load has ended. -/
  | told {d : Traffic} {before after : List Job} {w : Nat} {result : Except Fault Resolved}
      (jobs : d.jobs = before ++ .relay w result :: after)
      (waiting : Waiting d.tasks w) :
      Move d { d with
        tasks := d.tasks.modify w Task.rouse
        jobs := before ++ after ++ [.step w (.loaded result)] }
  /-- A task that no longer waits is not told. -/
  | untold {d : Traffic} {before after : List Job} {w : Nat} {result : Except Fault Resolved}
      (jobs : d.jobs = before ++ .relay w result :: after)
      (away : ¬ Waiting d.tasks w) :
      Move d { d with jobs := before ++ after }
  /-- A task that is not a load ends. -/
  | closed {d : Traffic} {before after : List Job} {t : Nat} {signal : Signal} {outcome : Outcome}
      (jobs : d.jobs = before ++ .step t signal :: after)
      (cause : At d.tasks t fun task => task.point.loads? = none ∧ Closes task signal outcome) :
      Move d { d with
        tasks := d.tasks.modify t (Task.conclude outcome), jobs := before ++ after }
  /-- A task that asks for a name waits for the load of the name. -/
  | joined {d : Traffic} {before after : List Job} {t k : Nat} {signal : Signal} {name : String}
      (jobs : d.jobs = before ++ .step t signal :: after)
      (asks : Asks d.tasks t) (loading : Loading d.tasks k name) :
      Move d { d with
        tasks := (d.tasks.modify t (Task.rest (.receive none))).modify k (Task.tell t)
        jobs := before ++ after }
  /-- A load begins. -/
  | began {d : Traffic} {name : String} (uncached : d.profiles.lookup name = none)
      (idle : d.inflight.lookup name = none) :
      Move d { d with
        inflight := d.inflight ++ [(name, .loading)]
        tasks := d.tasks ++ [{ point := .load name }]
        jobs := d.jobs ++ [.step d.tasks.length .go] }
  /-- A load is held back at a latch. -/
  | held {d : Traffic} {before after : List Job} {t : Nat} {signal : Signal}
      {name location : String} {latched : List Nat}
      (jobs : d.jobs = before ++ .step t signal :: after) (loading : Loading d.tasks t name)
      (located : Registry.locate d.settings name = .ok location)
      (latches : ∀ w ∈ latched, w = t ∨ w ∈ d.latched) :
      Move d { d with
        latched, tasks := d.tasks.modify t (Task.rest (.fetch name location))
        jobs := before ++ after }

/-! ## What holds of every task -/

/-- A load. Nobody sees it and nobody cancels it; those who wait for it are told when it ends. -/
structure IsLoad (settings : Settings) (name : String) (task : Task) : Prop where
  point : task.point.loads? = some name
  located : ∀ {location : String}, task.point = .fetch name location →
    Registry.locate settings name = .ok location
  unnumbered : task.number = none
  free : task.condemned = false
  relays : ∀ callback ∈ task.callbacks, ∃ w, callback = .relay w
  quiet : ∀ {outcome : Outcome}, task.phase = .ended outcome → task.callbacks = []
  landed : ∀ {outcome : Outcome}, task.phase = .ended outcome →
    (∃ resolved, outcome = .profile resolved) ∨ ∃ fault, outcome = .fault fault

/-- A task of the registry. -/
inductive Proper (settings : Settings) (task : Task) : Prop
  | asker {identifier : Identifier} (point : task.point = .resolve identifier)
      (quiet : task.callbacks = []) (busy : task.phase ≠ .waiting)
  | receiver (point : task.point = .receive none) (quiet : task.callbacks = [])
  | load {name : String} (load : IsLoad settings name task)

variable {settings : Settings} {task : Task} {name : String} {outcome : Outcome}

namespace IsLoad

theorem rouse (load : IsLoad settings name task) : IsLoad settings name task.rouse :=
  { load with quiet := nofun, landed := nofun }

theorem tell (load : IsLoad settings name task) (going : ∀ outcome, task.phase ≠ .ended outcome)
    (w : Nat) : IsLoad settings name (task.tell w) := by
  refine { load with relays := ?_, quiet := fun ended => absurd ended (going _) }
  intro callback mem
  rcases List.mem_append.mp mem with old | new
  · exact load.relays callback old
  · exact ⟨w, List.mem_singleton.mp new⟩

theorem rest {location : String} (load : IsLoad settings name task)
    (located : Registry.locate settings name = .ok location) :
    IsLoad settings name (task.rest (.fetch name location)) := by
  refine { load with point := rfl, located := ?_, quiet := nofun, landed := nofun }
  rintro _ ⟨⟩
  exact located

theorem conclude (load : IsLoad settings name task)
    (landed : (∃ resolved, outcome = .profile resolved) ∨ ∃ fault, outcome = .fault fault) :
    IsLoad settings name (task.conclude outcome) := by
  refine { load with relays := nofun, quiet := fun _ => rfl, landed := ?_ }
  rintro _ ⟨⟩
  exact landed

end IsLoad

namespace Proper

theorem isLoad (proper : Proper settings task) (loads : task.point.loads? = some name) :
    IsLoad settings name task := by
  cases proper with
  | asker point => rw [point] at loads; cases loads
  | receiver point => rw [point] at loads; cases loads
  | load load =>
    obtain rfl := Option.some.inj (load.point.symm.trans loads)
    exact load

/-- Only loads are waited for. -/
theorem quiet (proper : Proper settings task) (resolver : task.point.loads? = none) :
    task.callbacks = [] := by
  cases proper with
  | asker _ quiet => exact quiet
  | receiver _ quiet => exact quiet
  | load load => rw [load.point] at resolver; cases resolver

/-- No load is cancelled. -/
theorem resolver_of_condemned (proper : Proper settings task) (condemned : task.condemned = true) :
    task.point.loads? = none := by
  cases proper with
  | asker point => simp [point]
  | receiver point => simp [point]
  | load load => rw [load.free] at condemned; cases condemned

theorem condemn (proper : Proper settings task) (numbered : task.number ≠ none) :
    Proper settings task.condemn := by
  cases proper with
  | asker point quiet busy => exact .asker point quiet busy
  | receiver point quiet => exact .receiver point quiet
  | load load => exact absurd load.unnumbered numbered

theorem rouse (proper : Proper settings task) : Proper settings task.rouse := by
  cases proper with
  | asker point quiet => exact .asker point quiet nofun
  | receiver point quiet => exact .receiver point quiet
  | load load => exact .load load.rouse

theorem conclude (proper : Proper settings task) (resolver : task.point.loads? = none) :
    Proper settings (task.conclude outcome) := by
  cases proper with
  | asker point => exact .asker point rfl nofun
  | receiver point => exact .receiver point rfl
  | load load => rw [load.point] at resolver; cases resolver

end Proper

variable {d d' : Traffic}

/-! ## Sound traffic -/

/-- Every load that has not ended is in flight, alone and for a name that is not cached, and every
name in flight is being loaded unless it is stranded. -/
structure Flights (d : Traffic) : Prop where
  inflight : ∀ {k : Nat} {name : String}, Loading d.tasks k name →
    d.inflight.lookup name = some .loading
  loading : ∀ {name : String}, d.inflight.lookup name = some .loading →
    ∃ k, Loading d.tasks k name
  unique : ∀ {j k : Nat} {name : String}, Loading d.tasks j name → Loading d.tasks k name → j = k
  uncached : ∀ {name : String}, d.inflight.lookup name ≠ none → d.profiles.lookup name = none

/-- Whoever is told how a load has ended waits for a load, and whoever waits for a load will be
told. -/
structure Relays (d : Traffic) : Prop where
  awaited : ∀ {w k : Nat}, Awaits d.tasks w k → Receives d.tasks w
  relayed : ∀ {w : Nat} {result : Except Fault Resolved}, .relay w result ∈ d.jobs →
    Receives d.tasks w
  source : ∀ {w : Nat}, Waits d.tasks w →
    (∃ k, Awaits d.tasks w k) ∨ ∃ result, .relay w result ∈ d.jobs

/-- What holds of the traffic of every registry. -/
structure Sound (d : Traffic) : Prop where
  proper : ∀ task ∈ d.tasks, Proper d.settings task
  scheduling : Scheduling d.tasks d.jobs
  kinds : ∀ {job : Job}, job ∈ d.jobs →
    (∃ t signal, job = .step t signal) ∨ ∃ w result, job = .relay w result
  /-- Whoever waits for a load, and is not cancelled, goes on only when told how it has ended. -/
  told : ∀ {t : Nat} {signal : Signal}, .step t signal ∈ d.jobs →
    (At d.tasks t fun task => task.point = .receive none ∧ task.condemned = false) →
    ∃ result, signal = .loaded result
  latched : ∀ {w : Nat}, w ∈ d.latched → ∃ name, Loads d.tasks w name
  relays : Relays d
  flights : Flights d
  stranded : ∀ {name : String} {fault : Fault}, d.inflight.lookup name = some (.stranded fault) →
    Registry.locate d.settings name = .error fault
  ungated : d.gated = false
  timeless : d.timers = []

theorem Sound.properAt (sound : Sound d) {t : Nat} (found : d.tasks[t]? = some task) :
    Proper d.settings task :=
  sound.proper task (List.mem_of_getElem? found)

/-! ## What a move changes -/

theorem Move.profiles_eq (move : Move d d') : d'.profiles = d.profiles := by
  cases move <;> rfl

theorem Move.settings_eq (move : Move d d') : d'.settings = d.settings := by
  cases move <;> rfl

theorem Move.gated_eq (move : Move d d') : d'.gated = d.gated := by
  cases move <;> rfl

theorem Move.timers_eq (move : Move d d') : d'.timers = d.timers := by
  cases move <;> rfl

/-- A move keeps the loads as they are, or it begins one. -/
theorem Move.loads_cases (move : Move d d') :
    (d'.inflight = d.inflight ∧ (∀ k name, Loads d'.tasks k name ↔ Loads d.tasks k name) ∧
      ∀ k name, Loading d'.tasks k name ↔ Loading d.tasks k name) ∨
    ∃ name, d.profiles.lookup name = none ∧ d.inflight.lookup name = none ∧
      d'.inflight = d.inflight ++ [(name, .loading)] ∧
      (∀ k other, Loads d'.tasks k other ↔
        Loads d.tasks k other ∨ k = d.tasks.length ∧ name = other) ∧
      ∀ k other, Loading d'.tasks k other ↔
        Loading d.tasks k other ∨ k = d.tasks.length ∧ name = other := by
  cases move with
  | unlatched => exact .inl ⟨rfl, fun _ _ => .rfl, fun _ _ => .rfl⟩
  | asked =>
    exact .inl ⟨rfl, fun k name => by simp [Loads, at_append],
      fun k name => by simp [Loading, at_append]⟩
  | condemned =>
    exact .inl ⟨rfl, fun k name => at_modify fun _ _ => .rfl,
      fun k name => at_modify fun _ _ => .rfl⟩
  | roused waiting =>
    refine .inl ⟨rfl, fun k name => at_modify fun _ _ => .rfl, fun k name => at_modify ?_⟩
    intro task found
    simp [Task.rouse, waiting.of_eq found]
  | told _ waiting =>
    refine .inl ⟨rfl, fun k name => at_modify fun _ _ => .rfl, fun k name => at_modify ?_⟩
    intro task found
    simp [Task.rouse, waiting.of_eq found]
  | untold => exact .inl ⟨rfl, fun _ _ => .rfl, fun _ _ => .rfl⟩
  | closed _ cause =>
    refine .inl ⟨rfl, fun k name => at_modify fun _ _ => .rfl, fun k name => at_modify ?_⟩
    intro task found
    simp [Task.conclude, (cause.of_eq found).1]
  | joined _ asks =>
    refine .inl ⟨rfl, fun k name => .trans (at_modify fun _ _ => .rfl) (at_modify ?_),
      fun k name => .trans (at_modify fun _ _ => .rfl) (at_modify ?_)⟩ <;>
    · intro task found
      obtain ⟨identifier, asks⟩ := asks.of_eq found
      simp [Task.rest, asks]
  | began uncached idle =>
    refine .inr ⟨_, uncached, idle, rfl, fun k other => ?_, fun k other => ?_⟩
    · simp [Loads, at_append]
    · simp [Loading, at_append]
  | held _ loading =>
    refine .inl ⟨rfl, fun k name => at_modify ?_, fun k name => at_modify ?_⟩ <;>
    · intro task found
      simp [Task.rest, loading.of_eq found]

theorem Move.loads_mono (move : Move d d') {k : Nat} {name : String}
    (loads : Loads d.tasks k name) : Loads d'.tasks k name := by
  rcases move.loads_cases with ⟨-, same, -⟩ | ⟨_, -, -, -, same, -⟩
  · exact (same k name).mpr loads
  · exact (same k name).mpr (.inl loads)

/-- Whoever has begun to wait for a load stays at that point. -/
theorem Move.receives (move : Move d d') {w : Nat} (receives : Receives d.tasks w) :
    Receives d'.tasks w := by
  cases move with
  | unlatched | untold => exact receives
  | asked | began => exact at_append.mpr (.inl receives)
  | condemned | roused | told | closed => exact At.modify receives fun _ _ => id
  | joined => exact At.modify (At.modify receives fun _ _ _ => rfl) fun _ _ => id
  | held _ loading =>
    refine At.modify receives fun task found point => ?_
    have loads := (loading.of_eq found).1
    rw [point] at loads
    cases loads

/-- A move keeps it as it is who waits for which load, or somebody who asks for a name begins to
wait. -/
theorem Sound.awaits_cases (sound : Sound d) (move : Move d d') :
    (∀ w j, Awaits d'.tasks w j ↔ Awaits d.tasks w j) ∨
    ∃ t k, Asks d.tasks t ∧
      (At d'.tasks t fun task => task.point = .receive none ∧ task.phase = .waiting) ∧
      ∀ w j, Awaits d'.tasks w j ↔ Awaits d.tasks w j ∨ w = t ∧ j = k := by
  cases move with
  | unlatched | untold => exact .inl fun _ _ => .rfl
  | asked | began => exact .inl fun w j => by simp [Awaits, at_append]
  | condemned | roused | told | held => exact .inl fun w j => at_modify fun _ _ => .rfl
  | closed _ cause =>
    -- A task that ends forgets whom it would tell. One that is not a load has nobody to tell.
    refine .inl fun w j => at_modify fun task found => ?_
    have quiet := (sound.properAt found).quiet (cause.of_eq found).1
    simp [Task.conclude, quiet]
  | @joined _ _ t k _ _ _ asks loading =>
    refine .inr ⟨t, k, asks, ?_, ?_⟩
    · refine At.modify ?_ fun _ _ => id
      exact at_modify_self.mpr (asks.imp fun _ _ _ => ⟨rfl, rfl⟩)
    · intro w j
      have rested : Awaits (d.tasks.modify t (Task.rest (.receive none))) w j ↔
          Awaits d.tasks w j := at_modify fun _ _ => .rfl
      rw [awaits_tell (by simpa using At.lt_length loading), rested]

/-- A task whose job is there is going to be run. -/
theorem Sound.scheduled (sound : Sound d) {t : Nat} {signal : Signal}
    (mem : .step t signal ∈ d.jobs) : Scheduled d.tasks t :=
  sound.scheduling.mem_runs.mp (mem_runs_of_mem mem)

/-- A move lets no task end, or one task that is not a load. -/
theorem Sound.ended_cases (sound : Sound d) (move : Move d d') :
    (∀ t outcome, Ended d'.tasks t outcome ↔ Ended d.tasks t outcome) ∨
    ∃ t signal outcome, .step t signal ∈ d.jobs ∧
      (At d.tasks t fun task => task.point.loads? = none ∧ Closes task signal outcome) ∧
      ∀ i other, Ended d'.tasks i other ↔ Ended d.tasks i other ∨ i = t ∧ other = outcome := by
  cases move with
  | unlatched | untold => exact .inl fun _ _ => .rfl
  | asked | began => exact .inl fun t outcome => by simp [Ended, at_append]
  | condemned => exact .inl fun t outcome => at_modify fun _ _ => .rfl
  | roused waiting =>
    refine .inl fun t outcome => at_modify fun task found => ?_
    simp [Task.rouse, waiting.of_eq found]
  | told _ waiting =>
    refine .inl fun t outcome => at_modify fun task found => ?_
    simp [Task.rouse, waiting.of_eq found]
  | @joined _ _ t k signal _ jobs =>
    -- The task that begins to wait was being run, so that it had not ended.
    have mem : .step t signal ∈ d.jobs := by simp [jobs]
    have scheduled := sound.scheduled mem
    refine .inl fun i outcome => .trans (at_modify fun _ _ => .rfl) (at_modify ?_)
    intro task found
    simp [Task.rest, scheduled.of_eq found]
  | @held _ _ t signal _ _ _ jobs =>
    have mem : .step t signal ∈ d.jobs := by simp [jobs]
    have scheduled := sound.scheduled mem
    refine .inl fun i outcome => at_modify fun task found => ?_
    simp [Task.rest, scheduled.of_eq found]
  | @closed _ _ t signal outcome jobs cause =>
    have mem : .step t signal ∈ d.jobs := by simp [jobs]
    refine .inr ⟨t, signal, outcome, mem, cause, ?_⟩
    intro i other
    by_cases eq : i = t
    · subst eq
      obtain ⟨task, found, scheduled⟩ := sound.scheduled mem
      rw [Ended, at_modify_self]
      simp [At, Ended, Task.conclude, found, scheduled, eq_comm]
    · rw [Ended, at_modify_of_ne eq]
      simp [eq, Ended]

theorem Sound.ended_mono (sound : Sound d) (move : Move d d') {t : Nat} {outcome : Outcome}
    (ended : Ended d.tasks t outcome) : Ended d'.tasks t outcome := by
  rcases sound.ended_cases move with same | ⟨_, _, _, -, -, same⟩
  · exact (same t outcome).mpr ended
  · exact (same t outcome).mpr (.inl ended)

/-- The jobs that a move adds: a task begins, goes on without being told, or is told by a relay. -/
theorem Move.mem_jobs (move : Move d d') {job : Job} (mem : job ∈ d'.jobs) :
    job ∈ d.jobs ∨ (∃ t, job = .step t .go) ∨
      ∃ w result, job = .step w (.loaded result) ∧ .relay w result ∈ d.jobs := by
  cases move with
  | unlatched | condemned => exact .inl mem
  | asked | began | roused =>
    rcases List.mem_append.mp mem with old | new
    · exact .inl old
    · exact .inr (.inl ⟨_, List.mem_singleton.mp new⟩)
  | told jobs =>
    rcases List.mem_append.mp mem with old | new
    · exact .inl (jobs ▸ mem_middle_of_mem old)
    · exact .inr (.inr ⟨_, _, List.mem_singleton.mp new, by simp [jobs]⟩)
  | untold jobs | closed jobs | joined jobs | held jobs => exact .inl (jobs ▸ mem_middle_of_mem mem)

theorem Move.relay_mem (move : Move d d') {w : Nat} {result : Except Fault Resolved}
    (mem : .relay w result ∈ d'.jobs) : .relay w result ∈ d.jobs := by
  rcases move.mem_jobs mem with old | ⟨_, ⟨⟩⟩ | ⟨_, _, ⟨⟩, _⟩
  exact old

/-- Only the end of a load gives its waiters something new to learn. -/
theorem Move.told_of_told (move : Move d d') {w : Nat} {result : Except Fault Resolved}
    (told : Told d'.jobs w result) : Told d.jobs w result := by
  rcases told with relay | step
  · exact .inl (move.relay_mem relay)
  · rcases move.mem_jobs step with old | ⟨_, ⟨⟩⟩ | ⟨_, _, ⟨⟩, relay⟩
    · exact .inr old
    · exact .inl relay

theorem Move.condemned_mono (move : Move d d') {w : Nat} (condemned : Condemned d.tasks w) :
    Condemned d'.tasks w := by
  cases move with
  | unlatched | untold => exact condemned
  | asked | began => exact at_append.mpr (.inl condemned)
  | condemned => exact At.modify condemned fun _ _ _ => rfl
  | roused | told | closed | held => exact At.modify condemned fun _ _ => id
  | joined => exact At.modify (At.modify condemned fun _ _ => id) fun _ _ => id

/-- Whoever has been told of a load does not wait again. -/
theorem Move.not_waiting (move : Move d d') {w : Nat} (receives : Receives d.tasks w)
    (away : ¬ Waiting d.tasks w) : ¬ Waiting d'.tasks w := by
  intro waiting
  apply away
  cases move with
  | unlatched | untold => exact waiting
  | asked | began => exact (at_append.mp waiting).resolve_right (by simp)
  | condemned => exact waiting.of_modify fun _ _ => id
  | roused | told | closed => exact waiting.of_modify fun _ _ scheduled => nomatch scheduled
  | @joined _ _ t _ _ _ _ asks =>
    have ne : w ≠ t := by
      rintro rfl
      exact receives.not_asks asks
    have rested := waiting.of_modify fun _ _ => id
    exact (at_modify_of_ne ne).mp rested
  | @held _ _ t _ _ _ _ _ loading =>
    have ne : w ≠ t := by
      rintro rfl
      obtain ⟨task, found, loads, -⟩ := loading
      rw [receives.of_eq found] at loads
      cases loads
    exact (at_modify_of_ne ne).mp waiting

/-! ## Moves keep the traffic sound -/

/-- Whoever asks for a name is not a load. -/
theorem ne_of_asks {tasks : List Task} {t k : Nat} {name : String}
    (asks : Asks tasks t) (loading : Loading tasks k name) : t ≠ k := by
  rintro rfl
  obtain ⟨task, found, loads, -⟩ := loading
  obtain ⟨identifier, point⟩ := asks.of_eq found
  rw [point] at loads
  cases loads

theorem Sound.proper_move (sound : Sound d) (move : Move d d') :
    ∀ task ∈ d'.tasks, Proper d'.settings task := by
  cases move with
  | unlatched | untold => exact sound.proper
  | asked =>
    simp only [List.forall_mem_append, List.forall_mem_singleton]
    exact ⟨sound.proper, .asker rfl rfl nofun⟩
  | began =>
    simp only [List.forall_mem_append, List.forall_mem_singleton]
    exact ⟨sound.proper, .load ⟨rfl, nofun, rfl, rfl, nofun, nofun, nofun⟩⟩
  | condemned numbered =>
    exact forall_mem_modify sound.proper fun task found =>
      (sound.properAt found).condemn (numbered.of_eq found)
  | roused | told =>
    exact forall_mem_modify sound.proper fun task found => (sound.properAt found).rouse
  | closed _ cause =>
    exact forall_mem_modify sound.proper fun task found =>
      (sound.properAt found).conclude (cause.of_eq found).1
  | joined _ asks loading =>
    refine forall_mem_modify (forall_mem_modify sound.proper ?_) ?_
    · intro task found
      obtain ⟨identifier, point⟩ := asks.of_eq found
      exact .receiver rfl ((sound.properAt found).quiet (by simp [point]))
    · -- The load that it joins is another task, and that one is as it was.
      intro task found
      rw [List.getElem?_modify_ne _ _ (ne_of_asks asks loading)] at found
      obtain ⟨loads, going⟩ := loading.of_eq found
      exact .load (((sound.properAt found).isLoad loads).tell going _)
  | held _ loading located =>
    exact forall_mem_modify sound.proper fun task found =>
      .load (((sound.properAt found).isLoad (loading.of_eq found).1).rest located)

theorem Sound.scheduling_move (sound : Sound d) (move : Move d d') :
    Scheduling d'.tasks d'.jobs := by
  cases move with
  | unlatched => exact sound.scheduling
  | asked | began =>
    refine sound.scheduling.add (fun has => Nat.lt_irrefl _ has.lt_length) fun i => ?_
    simp [Scheduled, at_append]
  | condemned => exact sound.scheduling.congr rfl fun i => at_modify fun _ _ => .rfl
  | roused waiting => exact sound.scheduling.rouse (waiting.imp fun _ _ => And.left)
  | told jobs waiting =>
    refine Scheduling.rouse (sound.scheduling.congr ?_ fun _ => .rfl) waiting
    rw [jobs, runs_relay]
  | untold jobs =>
    refine sound.scheduling.congr ?_ fun i => .rfl
    rw [jobs, runs_relay]
  | closed jobs =>
    exact (jobs ▸ sound.scheduling).remove (scheduled_modify (by simp [Task.conclude]))
  | joined jobs asks loading =>
    refine (jobs ▸ sound.scheduling).remove fun i => ?_
    exact .trans (at_modify fun _ _ => .rfl) (scheduled_modify (by simp [Task.rest]) i)
  | held jobs loading =>
    exact (jobs ▸ sound.scheduling).remove (scheduled_modify (by simp [Task.rest]))

theorem Sound.kinds_move (sound : Sound d) (move : Move d d') {job : Job}
    (mem : job ∈ d'.jobs) :
    (∃ t signal, job = .step t signal) ∨ ∃ w result, job = .relay w result := by
  rcases move.mem_jobs mem with old | ⟨t, rfl⟩ | ⟨w, result, rfl, -⟩
  · exact sound.kinds old
  · exact .inl ⟨t, .go, rfl⟩
  · exact .inl ⟨w, .loaded result, rfl⟩

theorem Sound.told_move (sound : Sound d) (move : Move d d') {t : Nat}
    {signal : Signal} (mem : .step t signal ∈ d'.jobs)
    (waits : At d'.tasks t fun task => task.point = .receive none ∧ task.condemned = false) :
    ∃ result, signal = .loaded result := by
  cases move with
  | unlatched => exact sound.told mem waits
  | asked | began =>
    -- The job that is added runs the task that is added, which does not wait yet.
    have old := (at_append.mp waits).resolve_right (by simp)
    refine sound.told ((List.mem_append.mp mem).resolve_right fun new => ?_) old
    simp only [List.mem_singleton, Job.step.injEq] at new
    exact absurd old.lt_length (by simp [new])
  | condemned => exact sound.told mem (waits.of_modify fun _ _ ⟨_, free⟩ => nomatch free)
  | roused waiting =>
    have old := waits.of_modify fun _ _ => id
    refine sound.told ((List.mem_append.mp mem).resolve_right fun new => ?_) old
    -- A task that goes on without being told is condemned or a load, and this one is neither.
    simp only [List.mem_singleton, Job.step.injEq] at new
    obtain ⟨task, found, point, free⟩ := old
    rcases ((new.1 ▸ waiting).of_eq found).2 with condemned | loads
    · rw [free] at condemned
      cases condemned
    · exact loads (by simp [point])
  | told jobs =>
    rcases List.mem_append.mp mem with old | new
    · exact sound.told (jobs ▸ mem_middle_of_mem old) (waits.of_modify fun _ _ => id)
    · simp only [List.mem_singleton, Job.step.injEq] at new
      exact ⟨_, new.2⟩
  | untold jobs => exact sound.told (jobs ▸ mem_middle_of_mem mem) waits
  | closed jobs =>
    exact sound.told (jobs ▸ mem_middle_of_mem mem) (waits.of_modify fun _ _ => id)
  | @joined _ _ u _ _ _ jobs =>
    -- The job of the task that begins to wait is done, and it has no other.
    have ne : t ≠ u := by
      rintro rfl
      exact (jobs ▸ sound.scheduling).not_mem_rest (mem_runs_of_mem mem)
    have rested := waits.of_modify fun _ _ => id
    exact sound.told (jobs ▸ mem_middle_of_mem mem) ((at_modify_of_ne ne).mp rested)
  | held jobs =>
    refine sound.told (jobs ▸ mem_middle_of_mem mem) ?_
    exact waits.of_modify fun _ _ ⟨point, _⟩ => nomatch point

theorem Sound.latched_move (sound : Sound d) (move : Move d d') {w : Nat}
    (mem : w ∈ d'.latched) : ∃ name, Loads d'.tasks w name := by
  suffices ∃ name, Loads d.tasks w name from this.imp fun _ => move.loads_mono
  cases move with
  | unlatched fewer => exact sound.latched (fewer w mem)
  | held _ loading _ latches =>
    rcases latches w mem with rfl | old
    · exact ⟨_, loading.imp fun _ _ => And.left⟩
    · exact sound.latched old
  | _ => exact sound.latched mem

/-- Whoever waits for a load has waited for it before, or has just joined it. -/
theorem Move.waits_cases (move : Move d d') {w : Nat}
    (waits : Waits d'.tasks w) : Waits d.tasks w ∨ ∃ k, Awaits d'.tasks w k := by
  cases move with
  | unlatched | untold => exact .inl waits
  | asked | began => exact .inl ((at_append.mp waits).resolve_right (by simp))
  | condemned => exact .inl (waits.of_modify fun _ _ ⟨_, _, free⟩ => nomatch free)
  | roused | told | closed =>
    exact .inl (waits.of_modify fun _ _ ⟨_, waiting, _⟩ => nomatch waiting)
  | held => exact .inl (waits.of_modify fun _ _ ⟨point, _⟩ => nomatch point)
  | @joined _ _ t k _ _ _ asks loading =>
    by_cases eq : w = t
    · refine .inr ⟨k, (awaits_tell ?_).mpr (.inr ⟨eq, rfl⟩)⟩
      simpa using loading.lt_length
    · have rested := waits.of_modify fun _ _ => id
      exact .inl ((at_modify_of_ne eq).mp rested)

/-- A relay to somebody who still waits is kept. -/
theorem Move.relay_kept (move : Move d d') {w : Nat} {result : Except Fault Resolved}
    (mem : .relay w result ∈ d.jobs) (waiting : Waiting d'.tasks w) :
    .relay w result ∈ d'.jobs := by
  cases move with
  | unlatched | condemned => exact mem
  | asked | began | roused => exact List.mem_append_left _ mem
  | told jobs =>
    refine List.mem_append_left _ ?_
    rw [jobs, mem_middle_iff] at mem
    refine mem.resolve_right ?_
    -- Whoever was told by this relay waits no longer.
    rintro ⟨⟩
    obtain ⟨_, -, ⟨⟩⟩ := at_modify_self.mp waiting
  | untold jobs away =>
    rw [jobs, mem_middle_iff] at mem
    refine mem.resolve_right ?_
    rintro ⟨⟩
    exact away waiting
  | closed jobs | joined jobs | held jobs =>
    rw [jobs, mem_middle_iff] at mem
    exact mem.resolve_right nofun

theorem Sound.relays_move (sound : Sound d) (move : Move d d') : Relays d' where
  awaited := by
    intro w j awaits
    rcases sound.awaits_cases move with same | ⟨t, k, -, waits, same⟩
    · exact move.receives (sound.relays.awaited ((same w j).mp awaits))
    · rcases (same w j).mp awaits with old | ⟨rfl, -⟩
      · exact move.receives (sound.relays.awaited old)
      · exact waits.imp fun _ _ => And.left
  relayed := fun mem => move.receives (sound.relays.relayed (move.relay_mem mem))
  source := by
    intro w waits
    rcases move.waits_cases waits with old | joined
    · -- What it was waiting for is still there: moves take no callback away from a load.
      rcases sound.relays.source old with ⟨k, awaits⟩ | ⟨result, mem⟩
      · refine .inl ⟨k, ?_⟩
        rcases sound.awaits_cases move with same | ⟨_, _, -, -, same⟩
        · exact (same w k).mpr awaits
        · exact (same w k).mpr (.inl awaits)
      · exact .inr ⟨result, move.relay_kept mem (waits.imp fun _ _ waits => waits.2.1)⟩
    · exact .inl joined

theorem Sound.flights_move (sound : Sound d) (move : Move d d') : Flights d' := by
  have flights := sound.flights
  rcases move.loads_cases with ⟨same, -, loading⟩ | ⟨name, uncached, idle, begun, -, loading⟩
  · constructor
    · intro k name; rw [same, loading]; exact flights.inflight
    · intro name; simp only [same, loading]; exact flights.loading
    · intro j k name; simp only [loading]; exact flights.unique
    · intro name; rw [same, move.profiles_eq]; exact flights.uncached
  · -- The name of the load that begins was neither cached nor in flight, so no other load has it.
    have begun_lookup : ∀ other, d'.inflight.lookup other =
        if other = name then some .loading else d.inflight.lookup other := by
      intro other
      rw [begun, List.lookup_append]
      by_cases eq : other = name
      · simp [eq, idle]
      · simp [eq, List.lookup_cons, beq_eq_false_iff_ne.mpr eq]
    have absent : ∀ k, ¬ Loading d.tasks k name := fun k loading => by
      simpa [idle] using flights.inflight loading
    constructor
    · intro k other
      rw [loading, begun_lookup]
      rintro (old | ⟨-, rfl⟩)
      · have ne : other ≠ name := by rintro rfl; exact absent k old
        simp [ne, flights.inflight old]
      · simp
    · intro other found
      rw [begun_lookup] at found
      by_cases eq : other = name
      · exact ⟨_, (loading _ other).mpr (.inr ⟨rfl, eq.symm⟩)⟩
      · obtain ⟨k, old⟩ := flights.loading (by simpa [eq] using found)
        exact ⟨k, (loading k other).mpr (.inl old)⟩
    · intro j k other
      rw [loading, loading]
      rintro (old | ⟨rfl, rfl⟩) (old' | ⟨rfl, eq⟩)
      · exact flights.unique old old'
      · exact absurd (eq ▸ old) (absent j)
      · exact absurd old' (absent k)
      · rfl
    · intro other
      rw [begun_lookup, move.profiles_eq]
      by_cases eq : other = name
      · simp [eq, uncached]
      · simpa [eq] using flights.uncached

theorem Sound.move (sound : Sound d) (move : Move d d') : Sound d' where
  proper := sound.proper_move move
  scheduling := sound.scheduling_move move
  kinds := sound.kinds_move move
  told := sound.told_move move
  latched := sound.latched_move move
  relays := sound.relays_move move
  flights := sound.flights_move move
  stranded := by
    intro name fault found
    rw [move.settings_eq]
    rcases move.loads_cases with ⟨same, -, -⟩ | ⟨_, -, -, begun, -, -⟩
    · exact sound.stranded (same ▸ found)
    · rw [begun, List.lookup_append, Option.or_eq_some_iff] at found
      rcases found with old | ⟨-, new⟩
      · exact sound.stranded old
      · rw [List.lookup_cons] at new
        split at new <;> cases new
  ungated := move.gated_eq.trans sound.ungated
  timeless := move.timers_eq.trans sound.timeless

end Traffic

end Highlighter.Host
