import Highlighter.Proofs.Host.Schedule
import Highlighter.Proofs.Host.Traffic

/-!
# Landings

The end of a load is one change of the traffic, whoever asked for it and whether or not it was held
back: the name leaves the flight, the profile is kept, the task ends, and a relay goes to everybody
who waits for it. A load of a name without a location leaves the name stranded instead.

## Main definitions

* `Host.Traffic.Registers` — what a load leaves in the registry
* `Host.Traffic.Lands` — a load ends

## Main results

* `Host.Traffic.Lands.awaits_iff`, `Host.Traffic.Lands.loading_iff`,
  `Host.Traffic.Sound.ended_iff_of_lands`, `Host.Traffic.Sound.told_of_lands` — what the end of a
  load changes
* `Host.Traffic.Sound.lands` — the end of a load keeps the traffic sound
-/

namespace Highlighter

open Highlighter.Host

namespace Host

namespace Traffic

variable {d d' : Traffic}

/-! ## The end of a load -/

/-- What a load leaves in the registry: the profile under its name, or a name that is stranded. -/
inductive Registers (d : Traffic) (name : String) :
    Outcome → List (String × Resolved) → List (String × Flight) → Prop
  | loaded (resolved : Resolved) :
      Registers d name (.profile resolved) (d.profiles ++ [(name, resolved)])
        (d.inflight.filter (·.1 != name))
  | stranded {fault : Fault} (nowhere : Registry.locate d.settings name = .error fault) :
      Registers d name (.fault fault) d.profiles
        (d.inflight.filter (·.1 != name) ++ [(name, .stranded fault)])

/-- A load of a name ends. Whoever waits for it is going to be told. -/
inductive Lands (d : Traffic) (t : Nat) (name : String) (outcome : Outcome) : Traffic → Prop
  | intro {before after : List Job} {signal : Signal} {task : Task}
      {profiles : List (String × Resolved)} {inflight : List (String × Flight)}
      (jobs : d.jobs = before ++ .step t signal :: after)
      (found : d.tasks[t]? = some task) (loads : task.point.loads? = some name)
      (registers : Registers d name outcome profiles inflight) :
      Lands d t name outcome { d with
        profiles, inflight
        tasks := d.tasks.modify t (Task.conclude outcome)
        jobs := before ++ after ++ task.callbacks.map (callbackJob t outcome) }

theorem lookup_filter {β : Type} (entries : List (String × β)) (name other : String) :
    (entries.filter (·.1 != name)).lookup other =
      if other = name then none else entries.lookup other := by
  induction entries with
  | nil => simp
  | cons entry entries ih =>
    obtain ⟨key, value⟩ := entry
    rw [List.filter_cons, List.lookup_cons]
    by_cases same : key = name
    · subst same
      by_cases eq : other = key
      · rw [eq] at ih
        simpa [eq] using ih
      · simpa [eq, beq_eq_false_iff_ne.mpr eq] using ih
    · by_cases eq : other = key
      · subst eq
        simp [same]
      · simp [same, List.lookup_cons, beq_eq_false_iff_ne.mpr eq, ih]

theorem Registers.inflight_lookup {name : String} {outcome : Outcome}
    {profiles : List (String × Resolved)} {inflight : List (String × Flight)}
    (registers : Registers d name outcome profiles inflight) {other : String} (ne : other ≠ name) :
    inflight.lookup other = d.inflight.lookup other := by
  cases registers with
  | loaded => simp [lookup_filter, ne]
  | stranded =>
    simp [List.lookup_append, lookup_filter, ne, List.lookup_cons, beq_eq_false_iff_ne.mpr ne]

theorem Registers.profiles_lookup {name : String} {outcome : Outcome}
    {profiles : List (String × Resolved)} {inflight : List (String × Flight)}
    (registers : Registers d name outcome profiles inflight) {other : String} (ne : other ≠ name) :
    profiles.lookup other = d.profiles.lookup other := by
  cases registers with
  | loaded => simp [List.lookup_append, List.lookup_cons, beq_eq_false_iff_ne.mpr ne]
  | stranded => rfl

theorem Registers.lookup_ne_loading {name : String} {outcome : Outcome}
    {profiles : List (String × Resolved)} {inflight : List (String × Flight)}
    (registers : Registers d name outcome profiles inflight) :
    inflight.lookup name ≠ some .loading := by
  cases registers with
  | loaded => simp [lookup_filter]
  | stranded => simp [List.lookup_append, lookup_filter]

section Lands

variable {t : Nat} {name : String} {outcome : Outcome}

theorem Lands.settings_eq (lands : Lands d t name outcome d') : d'.settings = d.settings := by
  cases lands
  rfl

theorem Lands.loads_iff (lands : Lands d t name outcome d') (k : Nat) (other : String) :
    Loads d'.tasks k other ↔ Loads d.tasks k other := by
  cases lands
  exact at_modify fun _ _ => .rfl

theorem Lands.receives_iff (lands : Lands d t name outcome d') (w : Nat) :
    Receives d'.tasks w ↔ Receives d.tasks w := by
  cases lands
  exact at_modify fun _ _ => .rfl

theorem Lands.condemned_iff (lands : Lands d t name outcome d') (w : Nat) :
    Condemned d'.tasks w ↔ Condemned d.tasks w := by
  cases lands
  exact at_modify fun _ _ => .rfl

theorem Lands.not_waiting (lands : Lands d t name outcome d') {w : Nat}
    (away : ¬ Waiting d.tasks w) : ¬ Waiting d'.tasks w := by
  intro waiting
  apply away
  cases lands
  exact waiting.of_modify fun _ _ ended => nomatch ended

theorem Lands.awaits_iff (lands : Lands d t name outcome d') (w j : Nat) :
    Awaits d'.tasks w j ↔ Awaits d.tasks w j ∧ j ≠ t := by
  cases lands
  by_cases eq : j = t
  · subst eq
    rw [Awaits, at_modify_self]
    simp [At, Task.conclude]
  · rw [Awaits, at_modify_of_ne eq]
    simp [Awaits, eq]

/-- The load that ends was in flight. -/
theorem Sound.loading_of_lands (sound : Sound d) (lands : Lands d t name outcome d') :
    Loading d.tasks t name := by
  cases lands with
  | @intro _ _ signal _ _ _ jobs found loads =>
    have mem : .step t signal ∈ d.jobs := by simp [jobs]
    have scheduled := (sound.scheduled mem).of_eq found
    exact ⟨_, found, loads, by simp [scheduled]⟩

theorem Lands.loading_iff (lands : Lands d t name outcome d') (k : Nat) (other : String) :
    Loading d'.tasks k other ↔ Loading d.tasks k other ∧ k ≠ t := by
  cases lands
  by_cases eq : k = t
  · subst eq
    rw [Loading, at_modify_self]
    simp [At, Task.conclude]
  · rw [Loading, at_modify_of_ne eq]
    simp [Loading, eq]

theorem Sound.ended_iff_of_lands (sound : Sound d) (lands : Lands d t name outcome d')
    (i : Nat) (other : Outcome) :
    Ended d'.tasks i other ↔ Ended d.tasks i other ∨ i = t ∧ other = outcome := by
  obtain ⟨task, found, -, going⟩ := sound.loading_of_lands lands
  cases lands
  by_cases eq : i = t
  · subst eq
    rw [Ended, at_modify_self]
    simp [At, Ended, Task.conclude, found, going, eq_comm]
  · rw [Ended, at_modify_of_ne eq]
    simp [Ended, eq]

/-- The end of a load tells those who wait for it, and adds no other job. -/
theorem Sound.mem_jobs_of_lands (sound : Sound d) (lands : Lands d t name outcome d')
    {job : Job} (mem : job ∈ d'.jobs) :
    job ∈ d.jobs ∨ ∃ w, job = .relay w (loadResult outcome) ∧ Awaits d.tasks w t := by
  cases lands with
  | @intro _ _ _ task _ _ jobs found loads =>
    rcases List.mem_append.mp mem with old | new
    · exact .inl (jobs ▸ mem_middle_of_mem old)
    · obtain ⟨callback, among, rfl⟩ := List.mem_map.mp new
      obtain ⟨w, rfl⟩ := ((sound.properAt found).isLoad loads).relays callback among
      exact .inr ⟨w, rfl, task, found, among⟩

theorem Sound.told_of_lands (sound : Sound d) (lands : Lands d t name outcome d') {w : Nat}
    {result : Except Fault Resolved} (told : Told d'.jobs w result) :
    Told d.jobs w result ∨ result = loadResult outcome ∧ Awaits d.tasks w t := by
  rcases told with relay | step
  · rcases sound.mem_jobs_of_lands lands relay with old | ⟨_, ⟨⟩, awaits⟩
    · exact .inl (.inl old)
    · exact .inr ⟨rfl, awaits⟩
  · rcases sound.mem_jobs_of_lands lands step with old | ⟨_, ⟨⟩, _⟩
    exact .inl (.inr old)

theorem Lands.relay_mem_of_awaits (lands : Lands d t name outcome d') {w : Nat}
    (awaits : Awaits d.tasks w t) : .relay w (loadResult outcome) ∈ d'.jobs := by
  cases lands with
  | intro jobs found =>
    exact List.mem_append_right _ (List.mem_map.mpr ⟨_, awaits.of_eq found, rfl⟩)

theorem Lands.relay_kept (lands : Lands d t name outcome d') {w : Nat}
    {result : Except Fault Resolved} (mem : .relay w result ∈ d.jobs) :
    .relay w result ∈ d'.jobs := by
  cases lands with
  | intro jobs =>
    rw [jobs, mem_middle_iff] at mem
    exact List.mem_append_left _ (mem.resolve_right nofun)

theorem Sound.scheduling_lands (sound : Sound d) (lands : Lands d t name outcome d') :
    Scheduling d'.tasks d'.jobs := by
  cases lands with
  | @intro _ _ _ task _ _ jobs found loads =>
    have removed : Scheduling (d.tasks.modify t (Task.conclude outcome)) _ :=
      (jobs ▸ sound.scheduling).remove (scheduled_modify (by simp [Task.conclude]))
    refine removed.congr ?_ fun _ => .rfl
    have relays : runs (task.callbacks.map (callbackJob t outcome)) = [] := by
      rw [runs, List.filterMap_eq_nil_iff]
      intro job mem
      obtain ⟨callback, among, rfl⟩ := List.mem_map.mp mem
      obtain ⟨w, rfl⟩ := ((sound.properAt found).isLoad loads).relays callback among
      rfl
    rw [runs, List.filterMap_append]
    exact (congrArg _ relays).trans (List.append_nil _)

theorem Sound.relays_lands (sound : Sound d) (lands : Lands d t name outcome d') :
    Relays d' where
  awaited := by
    intro w j awaits
    rw [lands.receives_iff]
    exact sound.relays.awaited ((lands.awaits_iff w j).mp awaits).1
  relayed := by
    intro w result mem
    rw [lands.receives_iff]
    rcases sound.mem_jobs_of_lands lands mem with old | ⟨_, ⟨⟩, awaits⟩
    · exact sound.relays.relayed old
    · exact sound.relays.awaited awaits
  source := by
    intro w waits
    have old : Waits d.tasks w := by
      cases lands
      exact waits.of_modify fun _ _ ⟨_, waiting, _⟩ => nomatch waiting
    rcases sound.relays.source old with ⟨k, awaits⟩ | ⟨result, mem⟩
    · -- The load that ends turns its callbacks into relays; all others keep theirs.
      by_cases eq : k = t
      · exact .inr ⟨_, lands.relay_mem_of_awaits (eq ▸ awaits)⟩
      · exact .inl ⟨k, (lands.awaits_iff w k).mpr ⟨awaits, eq⟩⟩
    · exact .inr ⟨result, lands.relay_kept mem⟩

theorem Sound.flights_lands (sound : Sound d) (lands : Lands d t name outcome d') :
    Flights d' := by
  have flights := sound.flights
  have landing := sound.loading_of_lands lands
  have loading := lands.loading_iff
  -- No other load than the one that ends has its name.
  have ne_name : ∀ {k other}, Loading d'.tasks k other → other ≠ name := by
    rintro k _ going rfl
    obtain ⟨old, ne⟩ := (loading k _).mp going
    exact ne (flights.unique old landing)
  cases lands with
  | intro _ _ _ registers =>
    constructor
    · intro k other going
      rw [registers.inflight_lookup (ne_name going)]
      exact flights.inflight ((loading k other).mp going).1
    · intro other found
      have ne : other ≠ name := by
        rintro rfl
        exact registers.lookup_ne_loading found
      rw [registers.inflight_lookup ne] at found
      obtain ⟨k, going⟩ := flights.loading found
      refine ⟨k, (loading k other).mpr ⟨going, ?_⟩⟩
      -- It is not the load that ends, which has the other name.
      rintro rfl
      obtain ⟨task, found, loads, -⟩ := going
      exact ne (Option.some.inj (loads.symm.trans (landing.of_eq found).1))
    · intro j k other going going'
      exact flights.unique ((loading j other).mp going).1 ((loading k other).mp going').1
    · -- The profile is kept only after its name has left the flight.
      intro other found
      by_cases eq : other = name
      · subst eq
        have uncached : d.profiles.lookup other = none :=
          flights.uncached (by simp [flights.inflight landing])
        cases registers with
        | loaded => simp [lookup_filter] at found
        | stranded => exact uncached
      · rw [registers.profiles_lookup eq]
        exact flights.uncached (registers.inflight_lookup eq ▸ found)

theorem Sound.lands (sound : Sound d) (lands : Lands d t name outcome d') :
    Sound d' where
  proper := by
    cases lands with
    | intro _ at_t loads registers =>
      refine forall_mem_modify sound.proper fun task found => ?_
      obtain rfl := Option.some.inj (at_t.symm.trans found)
      refine .load (((sound.properAt found).isLoad loads).conclude ?_)
      cases registers with
      | loaded resolved => exact .inl ⟨resolved, rfl⟩
      | stranded => exact .inr ⟨_, rfl⟩
  scheduling := sound.scheduling_lands lands
  kinds := by
    intro job mem
    rcases sound.mem_jobs_of_lands lands mem with old | ⟨w, rfl, -⟩
    · exact sound.kinds old
    · exact .inr ⟨w, _, rfl⟩
  told := by
    intro i signal mem waits
    have old : .step i signal ∈ d.jobs :=
      (sound.mem_jobs_of_lands lands mem).resolve_right fun ⟨_, relay, _⟩ => nomatch relay
    refine sound.told old ?_
    cases lands
    exact waits.of_modify fun _ _ => id
  latched := by
    intro w mem
    simp only [lands.loads_iff]
    cases lands
    exact sound.latched mem
  relays := sound.relays_lands lands
  flights := sound.flights_lands lands
  stranded := by
    intro other fault found
    cases lands with
    | intro _ _ _ registers =>
      by_cases eq : other = name
      · subst eq
        cases registers with
        | loaded => simp [lookup_filter] at found
        | @stranded cause nowhere =>
          have eq : cause = fault := by simpa [List.lookup_append, lookup_filter] using found
          exact eq ▸ nowhere
      · rw [registers.inflight_lookup eq] at found
        exact sound.stranded found
  ungated := by cases lands; exact sound.ungated
  timeless := by cases lands; exact sound.timeless

end Lands

end Traffic
end Host
end Highlighter
