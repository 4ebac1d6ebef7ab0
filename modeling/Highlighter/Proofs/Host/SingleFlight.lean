import Highlighter.Proofs.Host.Sharing

/-!
# Single flight

However many ask for a name, it is loaded once until its profile is dropped, and all of them get
what was kept for it then. This holds whatever the loader answers, whatever is held back, cancelled
or dropped meanwhile, and in whichever order the jobs of the host are done.

## Main definitions

* `Host.Stores` — a load ends by keeping what it has made
* `Host.Spares` — nothing changes but one task and the jobs that run it
* `Host.SingleFlight` — what holds at every time

## Main results

* `Host.Reaches.exists_stores` — every load that has ended kept what it had just made
* `Host.Does.answers` — what whoever asks for a name gets
* `Host.spares_obey_cancel`, `Host.Does.spares` — a task that gives up changes nothing for the
  others
* `Host.single_flight` — loads are shared in every run
-/

namespace Highlighter

open Highlighter.Host

namespace Host

open Relation Traffic

variable {start host next : Host} {w k : Nat}

/-! ## The end of a load -/

/-- Moves let no load end. -/
theorem Traffic.Sound.ended_of_moves {d d' : Traffic} (sound : Sound d)
    (moves : ReflTransGen Move d d') {name : String} {outcome : Outcome}
    (loads : Loads d'.tasks k name) (ended : Ended d'.tasks k outcome) :
    Loads d.tasks k name ∧ Ended d.tasks k outcome := by
  induction moves with
  | refl => exact ⟨loads, ended⟩
  | @tail d' d'' moves move ih =>
    have sound' := sound.moves moves
    have old : k < d'.tasks.length → Loads d'.tasks k name := by
      intro lt
      rcases move.grows.begun loads with old | ⟨le, -, -⟩
      · exact old
      · exact absurd lt (Nat.not_lt.mpr le)
    rcases sound'.ended_cases move with same | ⟨t, _, _, -, cause, same⟩
    · have ended' := (same k outcome).mp ended
      exact ih (old ended'.lt_length) ended'
    · rcases (same k outcome).mp ended with ended' | ⟨rfl, -⟩
      · exact ih (old ended'.lt_length) ended'
      · -- What a move lets end is not a load.
        obtain ⟨task, found, loads⟩ := old cause.lt_length
        rw [(cause.of_eq found).1] at loads
        cases loads

section Reading

variable [PatternReader]

/-- A load of a name ends: where nothing was kept under the name, the profile is kept that was made
of what the loader answered just now. A load without a location ends with a fault, and keeps
nothing. -/
def Stores (host next : Host) (name : String) (outcome : Outcome) : Prop :=
  host.registry.profiles.lookup name = none ∧
  match Registry.locate host.registry.settings name with
  | .ok location =>
    outcome = .profile (host.registry.made name (host.loader.answer location name)) ∧
    next.registry.profiles = host.registry.profiles ++
      [(name, host.registry.made name (host.loader.answer location name))] ∧
    next.registry.inflight.lookup name = none
  | .error fault =>
    outcome = .fault fault ∧ next.registry.profiles = host.registry.profiles ∧
    next.registry.inflight.lookup name = some (.stranded fault)

theorem Traffic.Sound.stores_of_lands (sound : host.traffic.Sound) {name : String}
    (lands : Lands host.traffic k name (host.landing name) next.traffic) :
    Stores host next name (host.landing name) := by
  have loading := sound.loading_of_lands lands
  refine ⟨sound.flights.uncached (by simp [sound.flights.inflight loading]), ?_⟩
  generalize traffic_eq : next.traffic = d, outcome_eq : host.landing name = outcome at lands
  have profiles : next.registry.profiles = d.profiles := congrArg Traffic.profiles traffic_eq
  have inflight : next.registry.inflight = d.inflight := congrArg Traffic.inflight traffic_eq
  rw [profiles, inflight]
  cases lands with
  | intro _ _ _ registers =>
    cases located : Registry.locate host.registry.settings name with
    | ok location =>
      simp only [landing, located] at outcome_eq
      subst outcome_eq
      cases registers
      exact ⟨rfl, rfl, by simp [lookup_filter]⟩
    | error fault =>
      simp only [landing, located] at outcome_eq
      subst outcome_eq
      cases registers
      exact ⟨rfl, rfl, by simp [List.lookup_append, lookup_filter]⟩

/-- A load that has ended after a step had ended before, or it has ended now. -/
theorem Step.ended_load_cases (sound : host.traffic.Sound) (step : Step host next) {name : String}
    {outcome : Outcome} (loads : Loads next.tasks k name) (ended : Ended next.tasks k outcome) :
    Loads host.tasks k name ∧ Ended host.tasks k outcome ∨
      Loading host.tasks k name ∧ Stores host next name outcome := by
  cases step.changes sound with
  | moves moves => exact .inl (sound.ended_of_moves moves loads ended)
  | @lands t other lands =>
    have old : Loads host.tasks k name := (lands.loads_iff k name).mp loads
    rcases (sound.ended_iff_of_lands lands k outcome).mp ended with ended' | ⟨rfl, rfl⟩
    · exact .inl ⟨old, ended'⟩
    · have loading := sound.loading_of_lands lands
      obtain ⟨task, found, loads⟩ := old
      obtain rfl : other = name := Option.some.inj ((loading.of_eq found).1.symm.trans loads)
      exact .inr ⟨loading, sound.stores_of_lands lands⟩
  | drops identifier eq =>
    subst eq
    exact .inl ⟨loads, ended⟩

/-- For every load that has ended there is the step in which it did. -/
theorem Reaches.exists_stores (sound : start.traffic.Sound) (empty : start.tasks = [])
    (run : Reaches start host) {name : String} {outcome : Outcome}
    (loads : Loads host.tasks k name) (ended : Ended host.tasks k outcome) :
    ∃ before after, Reaches start before ∧ Step before after ∧ Reaches after host ∧
      Loading before.tasks k name ∧ Ended after.tasks k outcome ∧
      Stores before after name outcome := by
  induction run with
  | refl => exact absurd loads.lt_length (by simp [empty])
  | @tail host next run step ih =>
    rcases step.ended_load_cases (Reaches.sound sound run) loads ended with
      ⟨loads', ended'⟩ | ⟨loading, stores⟩
    · obtain ⟨before, after, first, ends, rest, facts⟩ := ih loads' ended'
      exact ⟨before, after, first, ends, rest.tail step, facts⟩
    · exact ⟨host, next, run, step, .refl, loading, ended, stores⟩

/-! ## Asking for a name -/

omit [PatternReader] in
theorem exists_awaits_join {name : String}
    (asks : Asks host.tasks w) (loading : Loading host.tasks k name) :
    ∃ j, Loading (host.join w name).tasks j name ∧ Awaits (host.join w name).tasks w j := by
  obtain ⟨j, going, joined⟩ := exists_join loading (ne_of_asks asks loading)
  refine ⟨j, ?_, ?_⟩
  · rw [joined]
    have rested : Loading (host.alter w (Task.rest (.receive none))).tasks j name :=
      (at_modify_of_ne (ne_of_asks asks going).symm).mpr going
    exact At.modify rested fun _ _ => id
  · rw [joined]
    refine (awaits_tell ?_).mpr (.inr ⟨rfl, rfl⟩)
    simpa [alter] using going.lt_length

/-- Whoever asks for a name gets the profile that is kept for it, or waits for the one load of the
name, which begins now if there is none. -/
theorem Does.answers (sound : host.traffic.Sound) {signal : Signal} {name : String}
    (does : host.Does (.step w signal) next)
    (asks : At host.tasks w fun task => task.point = .resolve (.name name))
    (free : ¬ Condemned host.tasks w) (proper : name ∉ defaultAliases) :
    (∃ resolved, host.registry.profiles.lookup name = some resolved ∧
      Ended next.tasks w (.profile resolved)) ∨
    (∃ fault, host.registry.inflight.lookup name = some (.stranded fault) ∧
      Ended next.tasks w (.fault fault)) ∨
    host.registry.profiles.lookup name = none ∧
      ∃ k, Loading next.tasks k name ∧ Awaits next.tasks w k := by
  cases does with
  | intro host before after =>
    obtain ⟨task, found, point⟩ := asks
    replace found : host.tasks[w]? = some task := found
    have uncondemned := (not_condemned_iff found).mp free
    have asks : Asks host.tasks w := ⟨task, found, _, point⟩
    have ask_eq : host.registry.ask (.name name) = host.registry.askName name := by
      rw [Registry.ask, if_neg]
      simpa using proper
    have step : host.perform (.step w signal) = host.ask w (.name name) none :=
      step_of_resolve found uncondemned point sound.ungated signal
    rw [step]
    rcases host.registry.askName_cases name with
      ⟨resolved, cached, ready⟩ | ⟨-, fault, stranded, failed⟩ | ⟨flying, joins⟩ |
      ⟨uncached, idle, begins⟩
    · refine .inl ⟨resolved, cached, ?_⟩
      rw [ask_of_ready (ask_eq ▸ ready)]
      exact ended_finish found
    · refine .inr (.inl ⟨fault, stranded, ?_⟩)
      rw [ask_of_error (ask_eq ▸ failed)]
      exact ended_finish found
    · -- The load is the one that is in flight.
      have inflight : host.registry.inflight.lookup name ≠ none := by simp [flying]
      have uncached : host.registry.profiles.lookup name = none := sound.flights.uncached inflight
      obtain ⟨k, loading⟩ := sound.flights.loading flying
      refine .inr (.inr ⟨uncached, ?_⟩)
      rw [ask_of_joins (ask_eq ▸ joins)]
      exact exists_awaits_join asks loading
    · -- The load is the one that begins now, at the end of the list of tasks.
      refine .inr (.inr ⟨uncached, ?_⟩)
      rw [ask_of_begins (ask_eq ▸ begins)]
      exact exists_awaits_join (at_append.mpr (.inl asks))
        (at_append.mpr (.inr ⟨rfl, rfl, by simp⟩))

/-! ## Giving up -/

/-- Nothing changes but a task and the jobs that run it. -/
structure Spares (w : Nat) (host next : Host) : Prop where
  registry : next.registry = host.registry
  latches : next.latches = host.latches
  tasks : ∀ t, t ≠ w → next.tasks[t]? = host.tasks[t]?
  jobs : next.jobs.filter (·.runs? != some w) = host.jobs.filter (·.runs? != some w)

omit [PatternReader] in
/-- A task that gives up changes nothing for the others. -/
theorem spares_cancel (w : Nat) : Spares w host (host.cancel w) := by
  have condemned : ∀ t, t ≠ w → (host.alter w Task.condemn).tasks[t]? = host.tasks[t]? :=
    fun _ ne => List.getElem?_modify_ne _ _ ne.symm
  by_cases waiting : Waiting (host.alter w Task.condemn).tasks w
  · rw [show host.cancel w = _ from signal_of_waiting waiting .go]
    refine ⟨rfl, rfl, fun t ne => ?_, ?_⟩
    · exact (List.getElem?_modify_ne _ _ ne.symm).trans (condemned t ne)
    · simp [add, alter, Job.runs?]
  · rw [show host.cancel w = _ from signal_eq_self waiting .go]
    exact ⟨rfl, rfl, condemned, rfl⟩

theorem spares_obey_cancel (sound : host.traffic.Sound) (number : Nat) :
    ∃ w, (∀ name, ¬ Loads host.tasks w name) ∧ Spares w host (host.obey (.cancel number)).1 := by
  rw [obey]
  split
  · rename_i w found
    obtain ⟨lt, numbered, -⟩ := List.findIdx?_eq_some_iff_getElem.mp found
    refine ⟨w, ?_, spares_cancel w⟩
    rintro name ⟨task, at_w, loads⟩
    obtain rfl : host.tasks[w] = task :=
      Option.some.inj ((List.getElem?_eq_getElem lt).symm.trans at_w)
    rw [((sound.properAt at_w).isLoad loads).unnumbered] at numbered
    cases numbered
  · -- Nobody has that number, and nothing happens at all.
    refine ⟨host.tasks.length, fun name loads => ?_, rfl, rfl, fun _ _ => rfl, rfl⟩
    exact Nat.lt_irrefl _ loads.lt_length

/-- The end of a task that has been cancelled changes nothing for the others. -/
theorem Does.spares (sound : host.traffic.Sound) {signal : Signal}
    (does : host.Does (.step w signal) next) (condemned : Condemned host.tasks w) :
    Spares w host next := by
  cases does with
  | intro host before after =>
    obtain ⟨task, found, condemned⟩ := condemned
    have proper := sound.properAt found
    have quiet := proper.quiet (proper.resolver_of_condemned condemned)
    replace found : host.tasks[w]? = some task := found
    have step : host.perform (.step w signal) = host.finish w .cancelled :=
      step_of_condemned found condemned signal
    rw [step]
    have ended : host.finish w .cancelled = { host.alter w (Task.conclude .cancelled) with
        ended := (host.finish w .cancelled).ended } := by
      simp only [finish, found, quiet]
      cases task.number <;> simp [add, alter] <;> rfl
    rw [ended]
    refine ⟨rfl, rfl, fun t ne => List.getElem?_modify_ne _ _ ne.symm, ?_⟩
    simp [prepend, alter, Job.runs?]

/-! ## Single flight -/

/-- The loads of a host that has come from another one by steps are shared. -/
structure SingleFlight (start host : Host) : Prop where
  /-- No name is both cached and in flight. -/
  apart : ∀ name, host.registry.inflight.lookup name ≠ none →
    host.registry.profiles.lookup name = none
  /-- A load that has not ended is in flight, and it is the only one of its name. -/
  single : ∀ k name, Loading host.tasks k name →
    host.registry.inflight.lookup name = some .loading ∧
    ∀ j, Loading host.tasks j name → j = k
  /-- Between the beginnings of two loads of a name, the profile was dropped that was kept for
  it. -/
  dropped : ∀ j k name, j < k → Loads host.tasks j name → Loads host.tasks k name →
    Dropped start host j name k
  /-- Whoever asks for a name gets the profile that is kept for it, or waits for its load. Only a
  name for which no location can be given leads to a fault. -/
  answered : ∀ w signal name next, host.Does (.step w signal) next →
    (At host.tasks w fun task => task.point = .resolve (.name name)) →
    ¬ Condemned host.tasks w → name ∉ defaultAliases →
    (∃ resolved, host.registry.profiles.lookup name = some resolved ∧
      Ended next.tasks w (.profile resolved)) ∨
    (∃ fault, Registry.locate host.registry.settings name = .error fault ∧
      Ended next.tasks w (.fault fault)) ∨
    host.registry.profiles.lookup name = none ∧
      ∃ k, Loading next.tasks k name ∧ Awaits next.tasks w k
  /-- Where the settings have a text for a base location and for an extension, every name has a
  location. -/
  located : ∀ base extension, start.registry.settings.baseLocation = .text base →
    start.registry.settings.profileExtension.plain? = .ok extension →
    ∀ name, ∃ location, Registry.locate host.registry.settings name = .ok location
  /-- All who have waited for a load end as it does, unless they are cancelled. -/
  shared : ∀ middle w k outcome, Reaches start middle → Reaches middle host →
    Awaits middle.tasks w k → Ended host.tasks w outcome →
    Ended host.tasks k outcome ∨ outcome = .cancelled ∧ Condemned host.tasks w
  /-- When the load has ended, all who have waited for it have ended or are going to be told, and
  two rounds of the host later all of them have ended, unless they are cancelled. -/
  returned : ∀ middle w k outcome, Reaches start middle → Reaches middle host →
    Awaits middle.tasks w k → Ended host.tasks k outcome →
    (¬ Condemned host.tasks w →
      Ended host.tasks w outcome ∨ Told host.jobs w (loadResult outcome)) ∧
    (¬ Condemned host.round.round.tasks w → Ended host.round.round.tasks w outcome)
  /-- A load that has ended did so by keeping the profile that it had just made. -/
  stored : ∀ k name outcome, Loads host.tasks k name → Ended host.tasks k outcome →
    ∃ before after, Reaches start before ∧ Step before after ∧ Reaches after host ∧
      Loading before.tasks k name ∧ Ended after.tasks k outcome ∧ Stores before after name outcome
  /-- To cancel somebody who waits changes nothing for the others, and neither does their end. -/
  spared : (∀ number, ∃ w, (∀ name, ¬ Loads host.tasks w name) ∧
      Spares w host (host.obey (.cancel number)).1) ∧
    ∀ w signal next, host.Does (.step w signal) next → Condemned host.tasks w → Spares w host next

/-- Loads are shared in every run of a registry. -/
theorem single_flight {settings : Settings} {loader : Loader} {session : Session FaultyCanvas}
    (run : Reaches (opened settings loader session) host) :
    SingleFlight (opened settings loader session) host := by
  have opened := sound_opened settings loader session
  have sound := run.sound opened
  have agrees : ∀ {middle w k}, Reaches _ middle → Reaches middle host → Awaits middle.tasks w k →
      Agrees host.traffic w k := fun first rest awaits =>
    (kept_agrees _ _).run (first.sound opened) rest (first.agrees_of_awaits opened rfl awaits)
  constructor
  · exact fun name => sound.flights.uncached
  · exact fun k name loading => ⟨sound.flights.inflight loading,
      fun j going => sound.flights.unique going loading⟩
  · exact fun j k name => run.dropped opened rfl
  · intro w signal name next does asks free proper
    refine (does.answers sound asks free proper).imp_right (.imp_left ?_)
    exact fun ⟨fault, stranded, ended⟩ => ⟨fault, sound.stranded stranded, ended⟩
  · intro base extension text written
    have same : host.registry.settings = settings := (kept_settings settings).run opened run rfl
    rw [same]
    exact Registry.exists_locate text written
  · intro middle w k outcome first rest awaits
    exact (agrees first rest awaits).ended
  · intro middle w k outcome first rest awaits ended
    have agrees := agrees first rest awaits
    exact ⟨agrees.ended_or_told sound ended, agrees.ended_round_round sound ended⟩
  · exact fun k name outcome => run.exists_stores opened rfl
  · exact ⟨spares_obey_cancel sound, fun w signal next does => does.spares sound⟩

end Reading

section Example

attribute [local instance] PatternReader.standard

/-- A host with one profile to load. -/
def shop : Host :=
  opened {} (.table [("./sql", .value (.map []))]) { layering := { renderer := {} } }

/-- Two ask for a profile while its load is held back, and the first of them gives up. The profile
is dropped and asked for again. At last somebody asks for a profile that there is not. -/
def visits : List Command :=
  [.hold "./sql", .resolve (.name "./sql"), .resolve (.name "./sql"), .cancel 0, .release "./sql",
    .invalidate .nothing, .resolve (.name "./sql"), .resolve (.name "./nosuch")]

theorem single_flight_of_visits :
    Reaches shop (shop.obeyAll 4 visits) ∧
      (shop.obeyAll 4 visits).tasks.map (·.phase) =
        [.ended .cancelled,
          .ended (.profile ⟨.made 0, { name := "./sql" }⟩),
          .ended (.profile ⟨.made 0, { name := "./sql" }⟩),
          .ended (.profile ⟨.made 1, { name := "./sql" }⟩),
          .ended (.profile ⟨.made 1, { name := "./sql" }⟩),
          .ended (.profile .default),
          .ended (.profile .default)] ∧
      SingleFlight shop (shop.obeyAll 4 visits) :=
  ⟨shop.reaches_obeyAll rfl, rfl, single_flight (shop.reaches_obeyAll rfl)⟩

end Example

end Host
end Highlighter
