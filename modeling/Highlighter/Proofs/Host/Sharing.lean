import Highlighter.Proofs.Host.Runs

/-!
# Sharing a load

Whoever begins to wait for a load learns of this load and of no other: unless it was cancelled, it
ends as the load has ended. The invariant is `Agrees`. It holds from the moment in which a task
joins the load, because a task that still asks has been told nothing, and every later step keeps it.

Nobody is forgotten either. When the load has ended, the relay is on its way to everybody who still
waits, and the host needs two rounds to have told all of them.

## Main definitions

* `Host.Traffic.Agrees` — all that a task learns of is how one load has ended

## Main results

* `Host.Reaches.agrees_of_awaits`, `Host.Traffic.kept_agrees` — whoever waits for a load agrees with
  it, then and later
* `Host.Traffic.Agrees.ended_or_told`, `Host.Traffic.Agrees.ended_round_round` — nobody is forgotten
-/

namespace Highlighter

open Highlighter.Host

namespace Host

open Relation

variable {start host next : Host}

/-! ## Those who wait for the same load -/

namespace Traffic

variable {d d' : Traffic} {w k : Nat}

/-- Whatever the task `w` learns is how the load `k` has ended. -/
structure Agrees (d : Traffic) (w k : Nat) : Prop where
  receives : Receives d.tasks w
  loads : ∃ name, Loads d.tasks k name
  awaits : ∀ {j : Nat}, Awaits d.tasks w j → j = k
  told : ∀ {result : Except Fault Resolved}, Told d.jobs w result →
    ∃ outcome, Ended d.tasks k outcome ∧ result = loadResult outcome
  ended : ∀ {outcome : Outcome}, Ended d.tasks w outcome →
    Ended d.tasks k outcome ∨ outcome = .cancelled ∧ Condemned d.tasks w

/-- Only loads are waited for. -/
theorem Sound.loads_of_awaits (sound : Sound d) (awaits : Awaits d.tasks w k) :
    ∃ name, Loads d.tasks k name := by
  obtain ⟨task, found, among⟩ := awaits
  cases loads : task.point.loads? with
  | some name => exact ⟨name, task, found, loads⟩
  | none =>
    rw [(sound.properAt found).quiet loads] at among
    cases among

/-- Nobody waits for a load that has ended. -/
theorem Sound.not_awaits_of_ended (sound : Sound d) {name : String} {outcome : Outcome}
    (loads : Loads d.tasks k name) (ended : Ended d.tasks k outcome) : ¬ Awaits d.tasks w k := by
  rintro ⟨task, found, among⟩
  rw [((sound.properAt found).isLoad (loads.of_eq found)).quiet (ended.of_eq found)] at among
  cases among

/-- A load ends with a profile or with a fault, which is what those who wait for it are told. -/
theorem Sound.eq_of_loadResult (sound : Sound d) {name : String} {outcome : Outcome}
    (loads : Loads d.tasks k name) (ended : Ended d.tasks k outcome) :
    (∀ {resolved}, .ok resolved = loadResult outcome → outcome = .profile resolved) ∧
      ∀ {fault}, .error fault = loadResult outcome → outcome = .fault fault := by
  obtain ⟨task, found, ended⟩ := ended
  rcases ((sound.properAt found).isLoad (loads.of_eq found)).landed ended with
    ⟨resolved, rfl⟩ | ⟨fault, rfl⟩
  · refine ⟨?_, nofun⟩
    rintro _ ⟨⟩
    rfl
  · refine ⟨nofun, ?_⟩
    rintro _ ⟨⟩
    rfl

/-- A task that begins to wait for a load has learnt of no other. -/
theorem Sound.agrees_of_joins (sound : Sound d) (move : Move d d') (away : ¬ Awaits d.tasks w k)
    (awaits : Awaits d'.tasks w k) : Agrees d' w k := by
  have sound' := sound.move move
  rcases sound.awaits_cases move with same | ⟨t, j, asks, waits, same⟩
  · exact absurd ((same w k).mp awaits) away
  obtain ⟨rfl, rfl⟩ := ((same w k).mp awaits).resolve_left away
  -- Before, the task was asking, so that nobody could tell it anything.
  have unheard : ¬ Receives d.tasks w := fun receives => receives.not_asks asks
  obtain ⟨task, found, point, waiting⟩ := waits
  refine ⟨⟨task, found, point⟩, sound'.loads_of_awaits awaits, ?_, ?_, ?_⟩
  · -- It waits for nothing else, for it did not wait at all.
    intro i also
    rcases (same w i).mp also with old | ⟨-, eq⟩
    · exact absurd (sound.relays.awaited old) unheard
    · exact eq
  · rintro result (relay | step)
    · exact absurd (sound.relays.relayed (move.relay_mem relay)) unheard
    · have scheduled := (sound'.scheduled step).of_eq found
      rw [waiting] at scheduled
      cases scheduled
  · intro outcome ended
    have ended := ended.of_eq found
    rw [waiting] at ended
    cases ended

theorem Agrees.move (sound : Sound d) (move : Move d d') (agrees : Agrees d w k) :
    Agrees d' w k := by
  have unasked := agrees.receives.not_asks
  refine ⟨move.receives agrees.receives, ?_, ?_, ?_, ?_⟩
  · obtain ⟨name, loads⟩ := agrees.loads
    exact ⟨name, move.loads_mono loads⟩
  · intro j awaits
    rcases sound.awaits_cases move with same | ⟨t, _, asks, -, same⟩
    · exact agrees.awaits ((same w j).mp awaits)
    · rcases (same w j).mp awaits with old | ⟨rfl, -⟩
      · exact agrees.awaits old
      · exact absurd asks unasked
  · intro result told
    obtain ⟨outcome, ended, eq⟩ := agrees.told (move.told_of_told told)
    exact ⟨outcome, sound.ended_mono move ended, eq⟩
  · intro outcome ended
    have old : Ended d.tasks w outcome → Ended d'.tasks k outcome ∨
        outcome = .cancelled ∧ Condemned d'.tasks w := fun old =>
      (agrees.ended old).imp (sound.ended_mono move) (.imp_right move.condemned_mono)
    rcases sound.ended_cases move with same | ⟨t, signal, _, mem, cause, same⟩
    · exact old ((same w outcome).mp ended)
    · rcases (same w outcome).mp ended with earlier | ⟨rfl, rfl⟩
      · exact old earlier
      · -- The task ends now. Unless it is condemned, it has been told how the load has ended.
        obtain ⟨name, loads⟩ := agrees.loads
        obtain ⟨task, found, -, closes⟩ := cause
        cases closes with
        | cancelled condemned => exact .inr ⟨rfl, move.condemned_mono ⟨task, found, condemned⟩⟩
        | answered asks => exact absurd ⟨task, found, _, asks⟩ unasked
        | loaded told =>
          obtain ⟨landed, ended', eq⟩ := agrees.told (.inr (told ▸ mem))
          obtain rfl := (sound.eq_of_loadResult loads ended').1 eq
          exact .inl (sound.ended_mono move ended')
        | failed told =>
          obtain ⟨landed, ended', eq⟩ := agrees.told (.inr (told ▸ mem))
          obtain rfl := (sound.eq_of_loadResult loads ended').2 eq
          exact .inl (sound.ended_mono move ended')

theorem Agrees.lands {t : Nat} {name : String} {outcome : Outcome} (sound : Sound d)
    (lands : Lands d t name outcome d') (agrees : Agrees d w k) : Agrees d' w k := by
  have ended_mono : ∀ {i other}, Ended d.tasks i other → Ended d'.tasks i other :=
    fun ended => (sound.ended_iff_of_lands lands _ _).mpr (.inl ended)
  refine ⟨(lands.receives_iff w).mpr agrees.receives, ?_, ?_, ?_, ?_⟩
  · obtain ⟨name, loads⟩ := agrees.loads
    exact ⟨name, (lands.loads_iff k name).mpr loads⟩
  · exact fun awaits => agrees.awaits ((lands.awaits_iff w _).mp awaits).1
  · intro result told
    rcases sound.told_of_lands lands told with old | ⟨rfl, awaits⟩
    · obtain ⟨other, ended, eq⟩ := agrees.told old
      exact ⟨other, ended_mono ended, eq⟩
    · -- The load that ends is the one that the task waits for.
      obtain rfl := agrees.awaits awaits
      exact ⟨outcome, (sound.ended_iff_of_lands lands _ _).mpr (.inr ⟨rfl, rfl⟩), rfl⟩
  · intro other ended
    rcases (sound.ended_iff_of_lands lands w other).mp ended with old | ⟨rfl, rfl⟩
    · exact (agrees.ended old).imp ended_mono (.imp_right (lands.condemned_iff w).mpr)
    · -- Whoever waits for a load is not itself a load.
      obtain ⟨task, found, loads, -⟩ := sound.loading_of_lands lands
      rw [agrees.receives.of_eq found] at loads
      cases loads

theorem kept_agrees (w k : Nat) : Kept fun d => Agrees d w k where
  move := fun sound move agrees => agrees.move sound move
  lands := fun sound lands agrees => agrees.lands sound lands
  drops := fun _ agrees =>
    ⟨agrees.receives, agrees.loads, agrees.awaits, agrees.told, agrees.ended⟩

/-- Moves let a task wait for a load only if it learns of no other. -/
theorem Sound.agrees_of_moves (sound : Sound d) (moves : ReflTransGen Move d d')
    (agrees : Awaits d.tasks w k → Agrees d w k) (awaits : Awaits d'.tasks w k) :
    Agrees d' w k := by
  induction moves with
  | refl => exact agrees awaits
  | @tail d' d'' moves move ih =>
    have sound' := sound.moves moves
    -- Either it has waited before the last move, or that is the move with which it joins.
    by_cases already : Awaits d'.tasks w k
    · exact (ih already).move sound' move
    · exact sound'.agrees_of_joins move already awaits

/-- Whoever goes on after waiting for a load goes on because it is told how the load has ended. -/
theorem Sound.exists_loaded (sound : Sound d) (receives : Receives d.tasks w)
    (free : ¬ Condemned d.tasks w) (scheduled : Scheduled d.tasks w) :
    ∃ result, .step w (.loaded result) ∈ d.jobs := by
  -- The job that runs it can only be one that tells it, since it is not cancelled.
  obtain ⟨signal, mem⟩ := exists_mem_of_mem_runs (sound.scheduling.mem_runs.mpr scheduled)
  obtain ⟨task, found, point⟩ := receives
  obtain ⟨result, rfl⟩ := sound.told mem ⟨task, found, point, (not_condemned_iff found).mp free⟩
  exact ⟨result, mem⟩

/-- When a load has ended, the relay is on its way to everybody who still waits for it. -/
theorem Agrees.exists_relay (sound : Sound d) (agrees : Agrees d w k) {outcome : Outcome}
    (ended : Ended d.tasks k outcome) (free : ¬ Condemned d.tasks w)
    (waiting : Waiting d.tasks w) : ∃ result, .relay w result ∈ d.jobs := by
  obtain ⟨task, found, point⟩ := agrees.receives
  have waits : Waits d.tasks w :=
    ⟨task, found, point, waiting.of_eq found, (not_condemned_iff found).mp free⟩
  rcases sound.relays.source waits with ⟨j, awaits⟩ | relay
  · -- It would wait for the load that has ended, but nobody does.
    obtain ⟨name, loads⟩ := agrees.loads
    obtain rfl := agrees.awaits awaits
    exact absurd awaits (sound.not_awaits_of_ended loads ended)
  · exact relay

theorem Agrees.eq_of_ended (agrees : Agrees d w k) {outcome own : Outcome}
    (ended : Ended d.tasks k outcome) (free : ¬ Condemned d.tasks w) (ends : Ended d.tasks w own) :
    own = outcome := by
  rcases agrees.ended ends with same | ⟨-, condemned⟩
  · exact same.unique ended
  · exact absurd condemned free

/-- Whoever has waited for a load that has ended has ended alike, or is going to learn how it has
ended, unless it is cancelled. -/
theorem Agrees.ended_or_told (sound : Sound d) (agrees : Agrees d w k) {outcome : Outcome}
    (ended : Ended d.tasks k outcome) (free : ¬ Condemned d.tasks w) :
    Ended d.tasks w outcome ∨ Told d.jobs w (loadResult outcome) := by
  have only : ∀ {result}, Told d.jobs w result → Told d.jobs w (loadResult outcome) := by
    intro result told
    obtain ⟨other, also, rfl⟩ := agrees.told told
    exact ended.unique also ▸ told
  obtain ⟨task, found, -⟩ := agrees.receives
  cases phase : task.phase with
  | scheduled =>
    obtain ⟨result, mem⟩ := sound.exists_loaded agrees.receives free ⟨task, found, phase⟩
    exact .inr (only (.inr mem))
  | waiting =>
    obtain ⟨result, mem⟩ := agrees.exists_relay sound ended free ⟨task, found, phase⟩
    exact .inr (only (.inl mem))
  | ended own =>
    have ends : Ended d.tasks w own := ⟨task, found, phase⟩
    obtain rfl := agrees.eq_of_ended ended free ends
    exact .inl ends

end Traffic

open Traffic

variable [PatternReader] {w k : Nat}

/-- Whoever waits for a load learns of no other. -/
theorem Reaches.agrees_of_awaits (sound : start.traffic.Sound) (empty : start.tasks = [])
    (run : Reaches start host) (awaits : Awaits host.tasks w k) : Agrees host.traffic w k := by
  induction run with
  | refl => exact absurd awaits.lt_length (by simp [empty])
  | @tail host next run step ih =>
    have sound' := Reaches.sound sound run
    cases step.changes sound' with
    | moves moves => exact sound'.agrees_of_moves moves ih awaits
    | lands lands => exact (ih ((lands.awaits_iff w k).mp awaits).1).lands sound' lands
    | drops identifier eq =>
      subst eq
      exact (kept_agrees w k).step sound' step (ih awaits)

/-! ## Everybody is told -/

/-- A task that is told of its load ends. -/
theorem Does.exists_ended {result : Except Fault Resolved}
    (does : host.Does (.step w (.loaded result)) next) (receives : Receives host.tasks w)
    (free : ¬ Condemned host.tasks w) : ∃ outcome, Ended next.tasks w outcome := by
  cases does with
  | intro host before after =>
    obtain ⟨task, found, point⟩ := receives
    replace found : host.tasks[w]? = some task := found
    have step : host.perform (.step w (.loaded result)) = _ :=
      step_of_loaded found ((not_condemned_iff found).mp free) point
    rw [step]
    exact ⟨_, ended_finish found⟩

/-- The relay to a task makes it go on. -/
theorem Does.not_waiting {result : Except Fault Resolved}
    (does : host.Does (.relay w result) next) : ¬ Waiting next.tasks w := by
  cases does with
  | intro host before after =>
    by_cases waiting : Waiting host.tasks w
    · have roused : (host.signal w (.loaded result)).tasks = host.tasks.modify w Task.rouse :=
        congrArg Traffic.tasks (traffic_signal waiting _)
      change ¬ Waiting (host.signal w (.loaded result)).tasks w
      rw [roused]
      intro still
      obtain ⟨_, -, ⟨⟩⟩ := at_modify_self.mp still
    · change ¬ Waiting (host.signal w (.loaded result)).tasks w
      rwa [signal_eq_self waiting]

namespace Traffic.Agrees

/-- A round after a load has ended, nobody waits for it any more. -/
theorem not_waiting_round (sound : host.traffic.Sound) (agrees : Agrees host.traffic w k)
    {outcome : Outcome} (ended : Ended host.tasks k outcome)
    (free : ¬ Condemned host.round.tasks w) : ¬ Waiting host.round.tasks w := by
  have round := host.reaches_round
  by_cases waiting : Waiting host.tasks w
  · -- The relay is on its way, and the round delivers it. What is done after it lets nobody who has
    -- been told wait again.
    have free : ¬ Condemned host.tasks w := fun condemned =>
      free ((kept_condemned w).run sound round condemned)
    obtain ⟨result, mem⟩ := agrees.exists_relay sound ended free waiting
    obtain ⟨before, after, first, does, rest⟩ := exists_does_of_mem_jobs mem
    have relayed := first.tail (.work does)
    have receives := ((kept_agrees w k).run sound relayed agrees).receives
    exact ((kept_awake w).run (relayed.sound sound) rest ⟨receives, does.not_waiting⟩).2
  · exact ((kept_awake w).run sound round ⟨agrees.receives, waiting⟩).2

/-- Whoever no longer waits ends in the next round. -/
theorem exists_ended_round (sound : host.traffic.Sound) (agrees : Agrees host.traffic w k)
    (away : ¬ Waiting host.tasks w) (free : ¬ Condemned host.round.tasks w) :
    ∃ outcome, Ended host.round.tasks w outcome := by
  have round := host.reaches_round
  obtain ⟨task, found, -⟩ := agrees.receives
  cases phase : task.phase with
  | waiting => exact absurd ⟨task, found, phase⟩ away
  | scheduled =>
    have free₀ : ¬ Condemned host.tasks w := fun condemned =>
      free ((kept_condemned w).run sound round condemned)
    obtain ⟨result, mem⟩ := sound.exists_loaded agrees.receives free₀ ⟨task, found, phase⟩
    obtain ⟨before, after, first, does, rest⟩ := exists_does_of_mem_jobs mem
    -- When its job comes up the task is still as it was: uncancelled, and about to be told.
    have free₁ : ¬ Condemned before.tasks w := fun condemned =>
      free ((kept_condemned w).run (first.sound sound) (.head (.work does) rest) condemned)
    have receives := ((kept_agrees w k).run sound first agrees).receives
    obtain ⟨outcome, ended⟩ := does.exists_ended receives free₁
    exact ⟨outcome, (kept_ended w outcome).run ((first.tail (.work does)).sound sound) rest ended⟩
  | ended outcome =>
    exact ⟨outcome, (kept_ended w outcome).run sound round ⟨task, found, phase⟩⟩

/-- Two rounds after a load has ended, whoever has waited for it has ended alike, unless it is
cancelled. -/
theorem ended_round_round (sound : host.traffic.Sound) (agrees : Agrees host.traffic w k)
    {outcome : Outcome} (ended : Ended host.tasks k outcome)
    (free : ¬ Condemned host.round.round.tasks w) : Ended host.round.round.tasks w outcome := by
  have first := host.reaches_round
  have second := host.round.reaches_round
  have sound₁ := first.sound sound
  have agrees₁ := (kept_agrees w k).run sound first agrees
  have free₁ : ¬ Condemned host.round.tasks w := fun condemned =>
    free ((kept_condemned w).run sound₁ second condemned)
  have away := agrees.not_waiting_round sound ended free₁
  obtain ⟨own, ends⟩ := agrees₁.exists_ended_round sound₁ away free
  -- Tasks that have ended stay so, and the two outcomes agree as they always do.
  have agrees₂ := (kept_agrees w k).run sound₁ second agrees₁
  have ended₂ := (kept_ended k outcome).run sound (first.trans second) ended
  obtain rfl := agrees₂.eq_of_ended ended₂ free ends
  exact ends

end Traffic.Agrees

end Host
end Highlighter
