import Highlighter.Proofs.Extraction.Totality
import Highlighter.Proofs.Host.SingleFlight
import Highlighter.Proofs.Refusals

/-!
# Everybody gets an answer

Whoever asks a registry for an identifier gets a profile, unless the registry refuses the identifier
at the moment in which it is asked. Nothing that happens afterwards makes a difference: what the
loader answers, whether loads are held back or profiles dropped, and who else asks or gives up. An
answer that is not given at once is given when the load has ended.

## Main definitions

* `Host.Outcome.Answers` — how a task ends that asks a registry
* `Host.Asking` — in a run a task asks for an identifier

## Main results

* `Host.Does.serves` — a task that asks is answered, or joins a load that decides
* `Host.Asking.answers`, `Host.Asking.exists_ended` — it gets the right answer, and gets it in time
* `Host.resolve_fails_iff_refused` — to resolve an identifier fails exactly if it is refused
-/

namespace Highlighter

open Highlighter.Host

namespace Host

open Relation Traffic

variable {start host next before later : Host} {w k : Nat} {identifier : Identifier}

theorem Traffic.kept_loads (k : Nat) (name : String) : Kept fun d => Loads d.tasks k name where
  move := fun _ move loads => move.loads_mono loads
  lands := fun _ lands loads => (lands.loads_iff k name).mpr loads
  drops := fun _ => id

section Reading

variable [PatternReader]

/-! ## The moment of the question -/

/-- How a task ends that asks a registry for an identifier: with a profile, or with the fault for
which the registry refuses it. -/
def Outcome.Answers (registry : Registry) (identifier : Identifier) : Outcome → Prop
  | .profile _ => ∀ fault, ¬ registry.Refuses identifier fault
  | .fault cause => registry.Refuses identifier cause
  | _ => False

/-- The step of a task that asks is what the host does when it is asked, but for the jobs around
it. -/
theorem Does.exists_ask (sound : host.traffic.Sound) {signal : Signal}
    (does : host.Does (.step w signal) next)
    (asks : At host.tasks w fun task => task.point = .resolve identifier)
    (free : ¬ Condemned host.tasks w) :
    ∃ (idle : Host) (task : Task), idle.registry = host.registry ∧ idle.tasks[w]? = some task ∧
      next.tasks = (idle.ask w identifier none).tasks := by
  cases does with
  | intro host before after =>
    obtain ⟨task, found, point⟩ := asks
    replace found : host.tasks[w]? = some task := found
    have step : host.perform (.step w signal) = host.ask w identifier none :=
      step_of_resolve found ((not_condemned_iff found).mp free) point sound.ungated signal
    rw [step]
    exact ⟨host, task, rfl, found, rfl⟩

/-- A task that asks is answered now, or it waits for a load, which is refused iff the question
is. -/
theorem Does.serves (sound : host.traffic.Sound) {signal : Signal}
    (does : host.Does (.step w signal) next)
    (asks : At host.tasks w fun task => task.point = .resolve identifier)
    (free : ¬ Condemned host.tasks w) :
    (∃ outcome, outcome.Answers host.registry identifier ∧ Ended next.tasks w outcome) ∨
    ∃ name k, (∀ fault, host.registry.Refuses identifier fault ↔
        Registry.locate host.registry.settings name = .error fault) ∧
      Loads next.tasks k name ∧ Awaits next.tasks w k := by
  have asked := host.registry.asked identifier
  generalize outcome_eq : (host.registry.ask identifier).outcome = outcome at asked
  cases asked with
  | @waits name _ _ _ proper uncached unstranded =>
    refine .inr ?_
    rcases does.answers sound asks free proper with
      ⟨resolved, cached, -⟩ | ⟨fault, stranded, -⟩ | ⟨-, k, loading, awaits⟩
    · cases uncached.symm.trans cached
    · exact absurd stranded (unstranded fault)
    · refine ⟨name, k, fun fault => ?_, loading.imp fun _ _ => And.left, awaits⟩
      exact Registry.refuses_iff_of_unstranded proper uncached unstranded
  | @refused _ fault refuses =>
    refine .inl ⟨.fault fault, refuses, ?_⟩
    obtain ⟨idle, task, same, found, tasks⟩ := does.exists_ask sound asks free
    rw [tasks, ask_of_error (same ▸ outcome_eq)]
    exact ended_finish found
  | @ready _ _ resolved accepts =>
    refine .inl ⟨.profile resolved, accepts, ?_⟩
    obtain ⟨idle, task, same, found, tasks⟩ := does.exists_ask sound asks free
    rw [tasks, ask_of_ready (same ▸ outcome_eq)]
    exact ended_finish found

/-! ## What comes of it -/

/-- A load that has ended gave a profile, or there was no location to load from. -/
theorem Reaches.landed_cases (sound : start.traffic.Sound) (empty : start.tasks = [])
    (run : Reaches start host) {name : String} {outcome : Outcome} (loads : Loads host.tasks k name)
    (ended : Ended host.tasks k outcome) :
    (∃ location resolved, Registry.locate start.registry.settings name = .ok location ∧
      outcome = .profile resolved) ∨
    ∃ fault, Registry.locate start.registry.settings name = .error fault ∧
      outcome = .fault fault := by
  obtain ⟨before, after, first, -, -, -, -, -, stores⟩ := run.exists_stores sound empty loads ended
  have same : before.registry.settings = start.registry.settings :=
    (kept_settings start.registry.settings).run sound first rfl
  rw [same] at stores
  split at stores
  next location located => exact .inl ⟨location, _, located, stores.1⟩
  next fault nowhere => exact .inr ⟨fault, nowhere, stores.1⟩

/-- In a run from one host to another a task asks for an identifier, and it is not cancelled. -/
structure Asking (start before later : Host) (w : Nat) (identifier : Identifier) : Prop where
  reaches : Reaches start before
  asks : At before.tasks w fun task => task.point = .resolve identifier
  rest : ∃ signal after, before.Does (.step w signal) after ∧ Reaches after later
  free : ¬ Condemned later.tasks w

namespace Asking

theorem reaches_later (asking : Asking start before later w identifier) : Reaches start later := by
  obtain ⟨signal, after, does, rest⟩ := asking.rest
  exact (asking.reaches.tail (.work does)).trans rest

section Run

variable (sound : start.traffic.Sound) (empty : start.tasks = [])
  (asking : Asking start before later w identifier)
include sound empty asking

/-- A task that has asked has been answered, or it learns how a load ends, which is refused iff the
question was. -/
theorem served :
    (∃ outcome, outcome.Answers before.registry identifier ∧ Ended later.tasks w outcome) ∨
    ∃ name k, (∀ fault, before.registry.Refuses identifier fault ↔
        Registry.locate start.registry.settings name = .error fault) ∧
      Loads later.tasks k name ∧ Agrees later.traffic w k := by
  have sound₀ := asking.reaches.sound sound
  obtain ⟨signal, after, does, rest⟩ := asking.rest
  have run : Reaches start after := asking.reaches.tail (.work does)
  have sound₁ := run.sound sound
  have free : ¬ Condemned before.tasks w := fun condemned =>
    asking.free ((kept_condemned w).run sound₀ (.head (.work does) rest) condemned)
  have same : before.registry.settings = start.registry.settings :=
    (kept_settings start.registry.settings).run sound asking.reaches rfl
  rcases does.serves sound₀ asking.asks free with
    ⟨outcome, answers, ended⟩ | ⟨name, k, refuses_iff, loads, awaits⟩
  · exact .inl ⟨outcome, answers, (kept_ended w outcome).run sound₁ rest ended⟩
  · have agrees := run.agrees_of_awaits sound empty awaits
    exact .inr ⟨name, k, same ▸ refuses_iff, (kept_loads k name).run sound₁ rest loads,
      (kept_agrees w k).run sound₁ rest agrees⟩

/-- A task that has asked and has ended got the right answer. -/
theorem answers {outcome : Outcome} (ended : Ended later.tasks w outcome) :
    outcome.Answers before.registry identifier := by
  rcases asking.served sound empty with
    ⟨other, answers, also⟩ | ⟨name, k, refuses_iff, loads, agrees⟩
  · exact ended.unique also ▸ answers
  · -- it ended as the load did, since it was not cancelled
    have landed : Ended later.tasks k outcome :=
      (agrees.ended ended).resolve_right fun cancelled => asking.free cancelled.2
    have run := asking.reaches_later
    rcases run.landed_cases sound empty loads landed with
      ⟨location, resolved, located, rfl⟩ | ⟨fault, nowhere, rfl⟩
    · intro fault refuses
      cases located.symm.trans ((refuses_iff fault).1 refuses)
    · exact (refuses_iff fault).2 nowhere

/-- When no load is going on any more, everybody who has asked ends within two rounds. -/
theorem exists_ended (landed : ∀ k name, ¬ Loading later.tasks k name)
    (free : ¬ Condemned later.round.round.tasks w) :
    ∃ outcome, Ended later.round.round.tasks w outcome := by
  have sound' := asking.reaches_later.sound sound
  rcases asking.served sound empty with ⟨outcome, -, ended⟩ | ⟨name, k, -, loads, agrees⟩
  · have rounds := later.reaches_round.trans later.round.reaches_round
    exact ⟨outcome, (kept_ended w outcome).run sound' rounds ended⟩
  · obtain ⟨task, found, loads⟩ := loads
    cases phase : task.phase with
    | ended outcome =>
      exact ⟨outcome, agrees.ended_round_round sound' ⟨task, found, phase⟩ free⟩
    | scheduled | waiting => exact absurd ⟨task, found, loads, by simp [phase]⟩ (landed k name)

end Run

end Asking

/-- To resolve an identifier fails exactly if the registry refuses it. This holds of every registry
and every loader if the loader answers at once. And it holds in every run of a host: a task that
asks for an identifier and ends without being cancelled gets a profile, or the fault for which the
registry refused the identifier when it was asked; and it ends when no load is going on any more. -/
theorem resolve_fails_iff_refused {settings : Settings} {loader : Loader}
    {session : Session FaultyCanvas}
    (asking : Asking (opened settings loader session) before later w identifier) :
    (∀ (loader : Loader) (registry : Registry) (identifier : Identifier) (fault : Fault),
      (loader.resolve registry identifier).outcome = .error fault ↔
        registry.Refuses identifier fault) ∧
    (∀ outcome, Ended later.tasks w outcome → outcome.Answers before.registry identifier) ∧
    ((∀ k name, ¬ Loading later.tasks k name) → ¬ Condemned later.round.round.tasks w →
      ∃ outcome, Ended later.round.round.tasks w outcome) := by
  have sound := sound_opened settings loader session
  refine ⟨Loader.outcome_resolve_eq_error_iff, ?_, ?_⟩
  · exact fun outcome => asking.answers sound rfl
  · exact asking.exists_ended sound rfl

end Reading

section Example

attribute [local instance] PatternReader.standard

/-- Somebody has asked for an identifier, and has not been answered yet. -/
def question (identifier : Identifier) : Host :=
  (shop.obey (.resolve identifier)).1

theorem tasks_round_question {fault : Fault}
    (refused : ((question identifier).registry.ask identifier).outcome = .error fault) :
    (question identifier).round.tasks =
      [{ point := .resolve identifier, phase := .ended (.fault fault), number := some 0 }] := by
  have round : (question identifier).round =
      { question identifier with jobs := [] }.ask 0 identifier none := rfl
  rw [round.trans (ask_of_error refused)]
  rfl

theorem asking_question {fault : Fault}
    (refused : ((question identifier).registry.ask identifier).outcome = .error fault) :
    Asking shop (question identifier) (question identifier).round 0 identifier := by
  refine ⟨.tail .refl (.obey rfl), ⟨_, rfl, rfl⟩, ⟨.go, _, ?_, .refl⟩, ?_⟩
  · exact .intro { question identifier with jobs := [] } [] [] (.step 0 .go)
  · rw [tasks_round_question refused]
    simp [Condemned, At]

/-- A mapping with a pattern whose repeat count cannot be represented. -/
def heavyMapping : Identifier :=
  .literal "O" [(.text "x", largeRepeat)]

theorem refuses_heavyMapping {registry : Registry} (unkept : registry.literals = []) :
    registry.Refuses heavyMapping .repeatTooLarge := by
  have escapes : largeRepeat.Escapes .repeatTooLarge :=
    .pattern (.text _) (by decide +kernel) (by decide)
  refine .literal (by rw [unkept]; rfl) (.entry ⟨[], _, [], rfl, by simp, ?_⟩) (by decide +kernel)
  exact .value escapes (by decide +kernel)

theorem heavyMapping_refused :
    Asking shop (question heavyMapping) (question heavyMapping).round 0 heavyMapping ∧
      Ended (question heavyMapping).round.tasks 0 (.fault .repeatTooLarge) ∧
      (question heavyMapping).registry.Refuses heavyMapping .repeatTooLarge := by
  have refused : ((question heavyMapping).registry.ask heavyMapping).outcome =
      .error .repeatTooLarge := Registry.Refuses.outcome_ask (refuses_heavyMapping rfl)
  have asking := asking_question refused
  have ended : Ended (question heavyMapping).round.tasks 0 (.fault .repeatTooLarge) := by
    rw [tasks_round_question refused]
    exact ⟨_, rfl, rfl⟩
  exact ⟨asking, ended, (resolve_fails_iff_refused asking).2.1 _ ended⟩

/-- Not everything can be resolved. -/
theorem heavyMapping_not_resolved :
    ¬ ∃ answer, ((Loader.table []).resolve {} heavyMapping).outcome = .ok answer := by
  rintro ⟨answer, resolved⟩
  have failed := (Loader.outcome_resolve_eq_error_iff (.table []) {} heavyMapping _).2
    (refuses_heavyMapping rfl)
  cases resolved.symm.trans failed

end Example

end Host

end Highlighter
