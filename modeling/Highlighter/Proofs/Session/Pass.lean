import Highlighter.Session
import Highlighter.Proofs.Extraction
import Highlighter.Proofs.Rendering

/-!
# What a pass does to its session

A pass touches its session twice: when it begins, and when its profile has arrived. Each of the two
can end in a few ways, and these are listed here once, with everything that holds in each of them.
What is said about sessions elsewhere is derived from the two lists.

## Main definitions

* `Session.Begins` — how a pass can begin
* `Session.Completes` — how a pass can end once its profile has arrived

## Main results

* `Session.begins_begin`, `Session.completes_complete` — the two lists are complete
-/

namespace Highlighter.Session

open Renderer

variable {σ : Type}

/-- A notification changes nothing but the noted text. -/
theorem notify_eq (session : Session σ) (text : String) :
    session.notify text =
      { session with pending := if session.closed then session.pending else some text } := by
  unfold notify
  split <;> rfl

/-- The generation after a pass for the text that was applied. It is a new one if a pass that began
after the applied one may still be under way. -/
def renewedGeneration (session : Session σ) : Nat :=
  if session.appliedGeneration < session.generation then session.generation + 1
  else session.generation

theorem generation_le_renewedGeneration (session : Session σ) :
    session.generation ≤ session.renewedGeneration := by
  unfold renewedGeneration
  split <;> omega

/-- How a pass for a text begins: the session afterwards, and the pass if it has to wait for its
profile. -/
inductive Begins (session : Session σ) (text : String) : Session σ → Option Pass → Prop
  /-- A closed session does nothing. -/
  | closed (isClosed : session.closed = true) : Begins session text session none
  /-- The text is the one that was applied. -/
  | same (isOpen : session.closed = false)
      (applied : session.appliedText = some (session.snapshot text)) :
      Begins session text
        { session with
          text := session.snapshot text
          generation := session.renewedGeneration
          stage := .idle } none
  /-- The text is another one, or has to be passed again. -/
  | other (isOpen : session.closed = false)
      (notApplied : session.appliedText ≠ some (session.snapshot text)) :
      Begins session text
        { session with
          text := session.snapshot text
          generation := session.generation + 1
          stage := .resolving }
        (some { generation := session.generation + 1, text := session.snapshot text })

theorem begins_begin (session : Session σ) (text : String) :
    Begins session text (session.begin text).1 (session.begin text).2 := by
  unfold begin
  split
  next isClosed => exact .closed isClosed
  next isOpen =>
    have isOpen : session.closed = false := by simpa using isOpen
    dsimp only
    split
    next applied => exact .same isOpen applied
    next notApplied => exact .other isOpen notApplied

/-- What the beginning of a pass leaves alone. -/
theorem Begins.frame {session next : Session σ} {text : String} {pass : Option Pass}
    (begins : Begins session text next pass) :
    next.settings = session.settings ∧ next.closed = session.closed ∧
      next.pending = session.pending ∧ next.lastResult = session.lastResult := by
  cases begins <;> exact ⟨rfl, rfl, rfl, rfl⟩

/-- A pass is left out exactly if its text is the one that was applied. -/
theorem begin_eq_none_iff {session : Session σ} (isOpen : session.closed = false) (text : String) :
    (session.begin text).2 = none ↔ session.appliedText = some (session.snapshot text) := by
  have hbegins := session.begins_begin text
  generalize session.begin text = begun at hbegins ⊢
  obtain ⟨next, pass⟩ := begun
  cases hbegins with
  | closed isClosed => cases isOpen.symm.trans isClosed
  | same _ applied => simp [applied]
  | other _ notApplied => simp [notApplied]

variable [Renderer σ]

/-- What is on a renderer after its last result was applied again. -/
def restored (broken : σ) : Option Highlights → σ
  | none => broken
  | some last => (callAll broken last.calls).1

variable [PatternReader]

/-- How a pass ends whose profile has arrived: the session afterwards, and what the pass returns or
raises. -/
inductive Completes (session : Session σ) (pass : Pass) (profile : Profile) :
    Session σ → Except Fault (Option Highlights) → Prop
  /-- A newer generation has begun. -/
  | stale (outdated : pass.generation ≠ session.generation) :
      Completes session pass profile { session with stage := .cancelled } (.ok none)
  /-- A fault escapes from extraction. -/
  | raised (newest : pass.generation = session.generation) {fault : Fault}
      (extracted : (extractAll profile pass.text pass.generation).outcome = .error fault) :
      Completes session pass profile { session with stage := .extracting } (.error fault)
  /-- The pass is the newest one, but a result of its generation or a newer one was applied. -/
  | barred (newest : pass.generation = session.generation)
      (passed : pass.generation ≤ session.appliedGeneration) :
      Completes session pass profile { session with stage := .cancelled } (.ok none)
  | applied (newest : pass.generation = session.generation) {result : Highlights}
      (extracted : (extractAll profile pass.text pass.generation).outcome = .ok result)
      (ahead : session.appliedGeneration < pass.generation) {layering : Layering σ}
      (called : callAll session.layering.renderer result.calls = (layering.renderer, .ok ())) :
      Completes session pass profile
        { session with
          layering
          appliedText := some pass.text
          appliedGeneration := pass.generation
          lastResult := some result
          stage := .idle } (.ok (some result))
  /-- The renderer has failed, and the last result is applied again. -/
  | failed (newest : pass.generation = session.generation) {result : Highlights}
      (extracted : (extractAll profile pass.text pass.generation).outcome = .ok result)
      (ahead : session.appliedGeneration < pass.generation) {broken : σ} {fault : Fault}
      (called : callAll session.layering.renderer result.calls = (broken, .error fault))
      {layering : Layering σ} (again : layering.renderer = restored broken session.lastResult) :
      Completes session pass profile { session with layering, stage := .idle } (.ok none)

/-- What the end of a pass leaves alone. -/
theorem Completes.frame {session next : Session σ} {pass : Pass} {profile : Profile}
    {outcome : Except Fault (Option Highlights)}
    (completes : Completes session pass profile next outcome) :
    next.settings = session.settings ∧ next.closed = session.closed ∧
      next.pending = session.pending := by
  cases completes <;> exact ⟨rfl, rfl, rfl⟩

/-- The last result is the one before, or the result of a profile. -/
theorem Completes.lastResult_cases {session next : Session σ} {pass : Pass} {profile : Profile}
    {outcome : Except Fault (Option Highlights)}
    (completes : Completes session pass profile next outcome) :
    next.lastResult = session.lastResult ∨
      ∃ result, next.lastResult = some result ∧ result.types.Nodup := by
  cases completes with
  | @applied _ result extracted _ _ _ =>
    exact Or.inr ⟨result, rfl, nodup_types_extractAll extracted⟩
  | _ => exact Or.inl rfl

omit [PatternReader] in
/-- Applying the last result again changes nothing but the renderer, and never fails. -/
theorem restore_eq (session : Session σ) :
    ∃ layering : Layering σ, session.restore.1 = { session with layering } ∧
      layering.renderer = restored session.layering.renderer session.lastResult ∧
      session.restore.2.outcome = .ok () := by
  unfold restore
  split
  next none_last =>
    refine ⟨session.layering, rfl, ?_, rfl⟩
    rw [none_last, restored]
  next last some_last =>
    have hcalls := session.layering.apply_eq_callAll last
    rcases happly : session.layering.apply last with ⟨layering, applied⟩
    rw [happly] at hcalls
    refine ⟨layering, rfl, ?_, ?_⟩
    · rw [some_last, restored, ← hcalls]
    · dsimp only
      rw [Run.outcome_bind_of_ok applied.outcome_attempt]
      cases applied.outcome <;> rfl

/-- How the result of the newest pass is applied. -/
theorem completes_applyResult {session : Session σ} {pass : Pass} {profile : Profile}
    {result : Highlights} (newest : pass.generation = session.generation)
    (extracted : (extractAll profile pass.text pass.generation).outcome = .ok result)
    (ahead : session.appliedGeneration < pass.generation) :
    Completes session pass profile (applyResult { session with stage := .applying } result).1
      (applyResult { session with stage := .applying } result).2.outcome := by
  have hcalls := session.layering.apply_eq_callAll result
  unfold applyResult
  rcases happly : session.layering.apply result with ⟨layering, applied⟩
  rw [happly] at hcalls
  dsimp only
  split
  next succeeded =>
    rw [succeeded] at hcalls
    dsimp only
    rw [source_extractAll extracted, generation_extractAll extracted,
      Run.outcome_bind_of_ok succeeded]
    exact .applied newest extracted ahead hcalls.symm
  next fault failed =>
    -- the fault is only noted, and applying the last result again never fails itself
    rw [failed] at hcalls
    obtain ⟨last, hsession, hlast, hrestore⟩ :=
      restore_eq { session with layering, stage := .applying }
    rcases hrun : restore { session with layering, stage := .applying } with ⟨next, again⟩
    rw [hrun] at hsession hrestore
    dsimp only at hsession hlast hrestore ⊢
    rw [Run.outcome_bind_of_ok applied.outcome_attempt, Run.outcome_bind_of_ok (Run.outcome_note _),
      Run.outcome_bind_of_ok hrestore, hsession]
    exact .failed newest extracted ahead hcalls.symm hlast

theorem completes_complete (session : Session σ) (pass : Pass) (profile : Profile) :
    Completes session pass profile (session.complete pass profile).1
      (session.complete pass profile).2.outcome := by
  unfold complete
  split
  next outdated => exact .stale outdated
  next newest =>
    have newest : pass.generation = session.generation := by omega
    dsimp only
    split
    next fault extracted =>
      dsimp only
      rw [Run.outcome_bind_of_error extracted]
      exact .raised newest extracted
    next result extracted =>
      split
      next passed =>
        dsimp only
        rw [Run.outcome_bind_of_ok extracted]
        exact .barred newest passed
      next ahead =>
        have ahead : session.appliedGeneration < pass.generation := by omega
        dsimp only
        rw [Run.outcome_bind_of_ok extracted]
        exact completes_applyResult newest extracted ahead

end Highlighter.Session
