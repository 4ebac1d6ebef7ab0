import Highlighter.Proofs.Session.Rollback

/-!
# After the renderer has failed

Runs follow each other, each from its beginning to its end, with the same profile. Any call of the
renderer may fail on the way, also those that apply the last result again. Once no call fails any
more, a run that makes a pass leaves exactly its result on the renderer, whatever was there.

A run for the text that was applied last makes no pass: it trusts the record of the session. Such a
run leaves the renderer as it is, so it is right only if the renderer holds the last result. This is
the case unless the last pass was lost, that is, unless neither its own result nor the last one
could be applied.

## Main definitions

* `Session.run` — a run that nothing interrupts
* `Session.Ends` — how such a run can end
* `Session.History` — sessions that can be reached by runs, with the endings of the runs

## Main results

* `Session.exists_ends` — every run of an open session ends in one of these ways
* `Session.History.layers_eq` — the renderer holds the last result, unless the last pass was lost
* `Session.next_run_recovers_iff` — when the next run leaves its result on the renderer
* `Session.next_run_leaves_nothing` — a run that does not, after a pass was lost
-/

namespace Highlighter.Session

open Renderer Layered

section Reading

variable {σ : Type} [Renderer σ] [PatternReader]

/-- A run for a text that nothing interrupts, with a profile that is at hand. -/
def run (session : Session σ) (profile : Profile) (text : String) :
    Session σ × Run (Option Highlights) :=
  match session.begin text with
  | (session, none) => (session, pure none)
  | (session, some pass) => session.complete pass profile

/-- What becomes of a run. -/
inductive Ending where
  /-- The text was the one that was applied, so that there was nothing to do. -/
  | skipped
  /-- A fault has escaped from extraction. -/
  | raised
  | applied
  /-- The renderer has failed, and the last result was applied again. -/
  | restored
  /-- The renderer has failed, and there was no last result, or it could not be applied again. -/
  | lost
  deriving DecidableEq, Repr

/-- The session after a pass for a text has begun. -/
def begun (session : Session σ) (text : String) (stage : Stage) : Session σ :=
  { session with text := session.snapshot text, generation := session.generation + 1, stage }

/-- How a run for a text ends: its ending, the session afterwards, and what it returns or raises. -/
inductive Ends (session : Session σ) (profile : Profile) (text : String) :
    Ending → Session σ → Except Fault (Option Highlights) → Prop
  | skipped (same : session.appliedText = some (session.snapshot text)) :
      Ends session profile text .skipped
        { session with
          text := session.snapshot text
          generation := session.renewedGeneration
          stage := .idle } (.ok none)
  | raised (other : session.appliedText ≠ some (session.snapshot text)) {fault : Fault}
      (extracted : (extractAll profile (session.snapshot text) (session.generation + 1)).outcome =
        .error fault) :
      Ends session profile text .raised (session.begun text .extracting) (.error fault)
  | applied (other : session.appliedText ≠ some (session.snapshot text)) {result : Highlights}
      (extracted : (extractAll profile (session.snapshot text) (session.generation + 1)).outcome =
        .ok result) {layering : Layering σ}
      (called : callAll session.layering.renderer result.calls = (layering.renderer, .ok ())) :
      Ends session profile text .applied
        { session.begun text .idle with
          layering
          appliedText := some (session.snapshot text)
          appliedGeneration := session.generation + 1
          lastResult := some result } (.ok (some result))
  | restored (other : session.appliedText ≠ some (session.snapshot text)) {result : Highlights}
      (extracted : (extractAll profile (session.snapshot text) (session.generation + 1)).outcome =
        .ok result) {broken : σ} {fault : Fault}
      (called : callAll session.layering.renderer result.calls = (broken, .error fault))
      {last : Highlights} (isLast : session.lastResult = some last) {layering : Layering σ}
      (again : callAll broken last.calls = (layering.renderer, .ok ())) :
      Ends session profile text .restored { session.begun text .idle with layering } (.ok none)
  | lost (other : session.appliedText ≠ some (session.snapshot text)) {result : Highlights}
      (extracted : (extractAll profile (session.snapshot text) (session.generation + 1)).outcome =
        .ok result) {broken : σ} {fault : Fault}
      (called : callAll session.layering.renderer result.calls = (broken, .error fault))
      (unrestored : ∀ last, session.lastResult = some last → (callAll broken last.calls).2 ≠ .ok ())
      {layering : Layering σ}
      (left : layering.renderer = Session.restored broken session.lastResult) :
      Ends session profile text .lost { session.begun text .idle with layering } (.ok none)

omit [PatternReader] in
/-- The last result is applied again without a failure, or it is not. -/
theorem restored_cases (broken : σ) (last? : Option Highlights) :
    (∃ last, last? = some last ∧
      callAll broken last.calls = (Session.restored broken last?, .ok ())) ∨
    ∀ last, last? = some last → (callAll broken last.calls).2 ≠ .ok () := by
  cases last? with
  | none => exact Or.inr fun _ h => nomatch h
  | some last =>
    rcases hcalled : callAll broken last.calls with ⟨reached, fault | ⟨⟩⟩
    · right
      rintro other hother
      obtain rfl := Option.some.inj hother
      simp [hcalled]
    · exact Or.inl ⟨last, rfl, by simp [Session.restored, hcalled]⟩

/-- Every run of an open session ends in one of these ways. -/
theorem exists_ends {session : Session σ} (isOpen : session.closed = false)
    (ordered : session.appliedGeneration ≤ session.generation) (profile : Profile) (text : String) :
    ∃ ending, Ends session profile text ending (session.run profile text).1
      (session.run profile text).2.outcome := by
  have hbegins := session.begins_begin text
  unfold run
  generalize session.begin text = begun at hbegins ⊢
  obtain ⟨next, pass⟩ := begun
  cases hbegins with
  | closed isClosed => cases isOpen.symm.trans isClosed
  | same _ applied => exact ⟨.skipped, .skipped applied⟩
  | other _ notApplied =>
    have hcompletes := completes_complete (session.begun text .resolving)
      ⟨session.generation + 1, session.snapshot text⟩ profile
    dsimp only [begun] at hcompletes ⊢
    generalize @complete σ _ _ _ _ profile = completed at hcompletes ⊢
    obtain ⟨next, trace, outcome⟩ := completed
    cases hcompletes with
    | stale outdated => exact absurd rfl outdated
    | raised _ extracted => exact ⟨.raised, .raised notApplied extracted⟩
    | barred _ passed => exact absurd passed (Nat.not_le.2 (Nat.lt_succ_of_le ordered))
    | applied _ extracted _ called => exact ⟨.applied, .applied notApplied extracted called⟩
    | @failed _ result extracted _ broken fault called layering again =>
      rcases restored_cases broken session.lastResult with ⟨last, isLast, hcalled⟩ | unrestored
      · exact ⟨.restored, .restored notApplied extracted called isLast (again ▸ hcalled)⟩
      · exact ⟨.lost, .lost notApplied extracted called unrestored again⟩

/-! ## Histories -/

/-- The sessions that runs with a profile can lead to, with the endings of the runs. Between two
runs the renderer may be exchanged for one with the same layers, which fails in other ways. -/
inductive History [Layered σ] (profile : Profile) (start : Session σ) :
    List Ending → Session σ → Prop
  | nil : History profile start [] start
  | run {endings : List Ending} {session : Session σ} {text : String} {ending : Ending}
      (history : History profile start endings session)
      (ends : Ends session profile text ending (session.run profile text).1
        (session.run profile text).2.outcome) :
      History profile start (endings ++ [ending]) (session.run profile text).1
  | exchange {endings : List Ending} {session : Session σ}
      (history : History profile start endings session) (renderer : σ)
      (unchanged : layers renderer = layers session.layering.renderer) :
      History profile start endings
        { session with layering := { session.layering with renderer } }

/-- What the record of a session says, if all its runs were made with a profile. -/
structure Recorded (profile : Profile) (session : Session σ) : Prop where
  isOpen : session.closed = false
  ordered : session.appliedGeneration ≤ session.generation
  none_applied : session.lastResult = none → session.appliedText = none
  applied : ∀ last, session.lastResult = some last → ∃ generation,
    session.appliedText = some last.source ∧
      (extractAll profile last.source generation).outcome = .ok last

theorem Recorded.ends {profile : Profile} {session next : Session σ} {text : String}
    {ending : Ending} {outcome : Except Fault (Option Highlights)}
    (recorded : Recorded profile session) (ends : Ends session profile text ending next outcome) :
    Recorded profile next := by
  have hordered := recorded.ordered
  cases ends with
  | skipped _ =>
    exact { recorded with ordered := Nat.le_trans hordered session.generation_le_renewedGeneration }
  | raised _ _ => exact { recorded with ordered := Nat.le_succ_of_le hordered }
  | applied _ extracted _ =>
    refine ⟨recorded.isOpen, Nat.le_refl _, fun h => (by cases h), ?_⟩
    rintro last hlast
    obtain rfl := Option.some.inj hlast
    rw [source_extractAll extracted]
    exact ⟨_, rfl, extracted⟩
  | restored _ _ _ _ _ => exact { recorded with ordered := Nat.le_succ_of_le hordered }
  | lost _ _ _ _ _ => exact { recorded with ordered := Nat.le_succ_of_le hordered }

/-- Whether a run that ended so has called the renderer. -/
def Ending.isPass : Ending → Bool
  | skipped => false
  | raised => false
  | applied => true
  | restored => true
  | lost => true

/-- How the last pass ended that called the renderer. -/
def lastPass? (endings : List Ending) : Option Ending :=
  (endings.filter Ending.isPass).getLast?

omit [PatternReader] in
theorem lastPass?_snoc (endings : List Ending) (ending : Ending) :
    lastPass? (endings ++ [ending]) = if ending.isPass then some ending else lastPass? endings := by
  cases hpass : ending.isPass <;> simp [lastPass?, hpass]

section History

variable [Layered σ] {profile : Profile} {settings : Settings} {identifier : Identifier}
  {renderer : σ} {endings : List Ending} {session : Session σ}

theorem History.recorded
    (history : History profile { settings, layering := { renderer }, identifier } endings session) :
    Recorded profile session := by
  induction history with
  | nil => exact ⟨rfl, Nat.le_refl _, fun _ => rfl, fun _ h => nomatch h⟩
  | run _ ends ih => exact ih.ends ends
  | exchange _ _ _ ih => exact { ih with }

/-- A history goes on with any run. -/
theorem History.exists_run
    (history : History profile { settings, layering := { renderer }, identifier } endings session)
    (text : String) : ∃ ending next outcome, Ends session profile text ending next outcome ∧
      History profile { settings, layering := { renderer }, identifier } (endings ++ [ending])
        next := by
  obtain ⟨ending, ends⟩ := exists_ends history.recorded.isOpen history.recorded.ordered profile text
  exact ⟨ending, _, _, ends, history.run ends⟩

/-- The renderer holds the last result, unless the last pass was lost. -/
theorem History.layers_eq
    (history : History profile { settings, layering := { renderer }, identifier } endings session)
    (kept : lastPass? endings ≠ some .lost) {last : Highlights}
    (isLast : session.lastResult = some last) :
    layers session.layering.renderer = last.inhabited := by
  induction history with
  | nil => cases isLast
  | exchange _ _ unchanged ih => exact unchanged.trans (ih kept isLast)
  | @run endings session text ending history ends ih =>
    have hrecorded := history.recorded
    rw [lastPass?_snoc] at kept
    generalize (session.run profile text).1 = next at ends isLast ⊢
    generalize (session.run profile text).2.outcome = outcome at ends
    cases ends with
    | skipped _ => exact ih kept isLast
    | raised _ _ => exact ih kept isLast
    | applied _ extracted called =>
      obtain rfl := Option.some.inj isLast
      exact layers_callAll_calls (nodup_types_extractAll extracted) called
    | restored _ _ _ isLast' again =>
      obtain rfl := Option.some.inj (isLast'.symm.trans isLast)
      obtain ⟨generation, -, extracted⟩ := hrecorded.applied _ isLast
      exact layers_callAll_calls (nodup_types_extractAll extracted) again
    | lost _ _ _ _ _ => exact absurd rfl kept

/-- Runs with one profile follow each other, and any call of the renderer may fail. Once no call
fails any more, the next run leaves exactly its result on the renderer, unless its text is the one
that was applied and the renderer does not hold the last result. It returns its result unless its
text is the one that was applied. The renderer holds the last result, if there is one, unless the
last pass was lost. -/
theorem next_run_recovers_iff
    (history : History profile { settings, layering := { renderer }, identifier } endings session)
    (steady : Steady session.layering.renderer) {text : String} {result : Highlights}
    (extracted : (extractAll profile (session.snapshot text) (session.generation + 1)).outcome =
      .ok result) :
    (layers (session.run profile text).1.layering.renderer = result.inhabited ↔
      (session.appliedText = some (session.snapshot text) →
        layers session.layering.renderer = session.lastLayers)) ∧
    (session.run profile text).2.outcome =
      .ok (if session.appliedText = some (session.snapshot text) then none else some result) ∧
    (lastPass? endings ≠ some .lost → session.lastResult ≠ none →
      layers session.layering.renderer = session.lastLayers) := by
  have hrecorded := history.recorded
  have hkept : lastPass? endings ≠ some .lost → session.lastResult ≠ none →
      layers session.layering.renderer = session.lastLayers := by
    intro kept hlast
    obtain ⟨last, isLast⟩ := Option.ne_none_iff_exists'.1 hlast
    rw [history.layers_eq kept isLast, lastLayers, isLast]
  obtain ⟨ending, ends⟩ := exists_ends hrecorded.isOpen hrecorded.ordered profile text
  generalize session.run profile text = ran at ends ⊢
  obtain ⟨next, trace, outcome⟩ := ran
  cases ends with
  | skipped same =>
    -- the last result was found in the same text, so it is what would be found now
    have hlast : session.lastResult ≠ none := by
      intro hnone
      cases (hrecorded.none_applied hnone).symm.trans same
    obtain ⟨last, isLast⟩ := Option.ne_none_iff_exists'.1 hlast
    obtain ⟨generation, hsource, hextracted⟩ := hrecorded.applied last isLast
    rw [Option.some.inj (hsource.symm.trans same)] at hextracted
    have hlayers : session.lastLayers = result.inhabited := by
      rw [lastLayers, isLast]
      exact inhabited_extractAll hextracted extracted
    refine ⟨?_, by simp [same], hkept⟩
    simp [same, hlayers]
  | raised _ raised => cases extracted.symm.trans raised
  | applied other extracted' called =>
    obtain rfl := Except.ok.inj (extracted.symm.trans extracted')
    have hlayers := layers_callAll_calls (nodup_types_extractAll extracted) called
    exact ⟨by simp [other, hlayers], by simp [other], hkept⟩
  | restored _ extracted' called _ _ =>
    rw [steady.callAll_eq] at called
    cases called
  | lost _ extracted' called _ _ =>
    rw [steady.callAll_eq] at called
    cases called

end History

end Reading

section Example

attribute [local instance] PatternReader.standard

/-- The profile that finds the digit one. -/
def ones : Profile :=
  { entries := [("digit", .pattern (.constant "1"))] }

/-- The first result is applied; the next one is lost, since neither it nor the first one can be
registered. -/
theorem exists_history_lost :
    ∃ session : Session FaultyCanvas,
      History ones { layering := { renderer := {} } } [.applied, .lost] session ∧
      session.settings = {} ∧ session.generation = 2 ∧ session.appliedText = some "a1" ∧
      Steady session.layering.renderer ∧ layers session.layering.renderer = [] := by
  let last : Highlights :=
    { source := "a1", spans := [("digit", [⟨1, 2, by decide⟩])], generation := 1 }
  let result : Highlights :=
    { source := "1b", spans := [("digit", [⟨0, 1, by decide⟩])], generation := 2 }
  have start : History ones { layering := { renderer := ({} : FaultyCanvas) } } [] _ := .nil
  obtain ⟨ending, session, outcome, ends, first⟩ := start.exists_run "a1"
  have hfirst : (extractAll ones "a1" 1).outcome = .ok last := by rfl
  cases ends with
  | skipped same => cases same
  | raised _ raised => cases hfirst.symm.trans raised
  | restored _ _ _ isLast _ => cases isLast
  | lost _ extracted called _ _ =>
    obtain rfl := Except.ok.inj (hfirst.symm.trans extracted)
    rw [(FaultyCanvas.steady {} 0).callAll_eq] at called
    cases called
  | applied _ extracted called =>
    obtain rfl := Except.ok.inj (hfirst.symm.trans extracted)
    have hlayers := layers_callAll_calls (nodup_types_extractAll extracted) called
    -- from now on the next two calls that register fail
    let faulty : FaultyCanvas :=
      { canvas := { layers := last.inhabited }, outage := { register := 2 } }
    let broken : FaultyCanvas := { canvas := { clearCalls := 1 }, outage := { register := 1 } }
    let left : FaultyCanvas := { canvas := { clearCalls := 2 } }
    have hfails : callAll faulty result.calls =
        (broken, .error (.raised .runtime "renderer unavailable")) := rfl
    have hagain : callAll broken last.calls =
        (left, .error (.raised .runtime "renderer unavailable")) := rfl
    have failing := first.exchange faulty hlayers.symm
    obtain ⟨ending, session, outcome, ends, second⟩ := failing.exists_run "1b"
    have hsecond : (extractAll ones "1b" 2).outcome = .ok result := by rfl
    cases ends with
    | skipped same =>
      have hsame : some "a1" = some "1b" := same
      simp at hsame
    | raised _ raised => cases hsecond.symm.trans raised
    | applied _ extracted called =>
      obtain rfl := Except.ok.inj (hsecond.symm.trans extracted)
      cases congrArg Prod.snd (hfails.symm.trans called)
    | restored _ extracted called isLast again =>
      obtain rfl := Except.ok.inj (hsecond.symm.trans extracted)
      obtain rfl : broken = _ := congrArg Prod.fst (hfails.symm.trans called)
      cases isLast
      cases congrArg Prod.snd (hagain.symm.trans again)
    | @lost _ _ extracted _ _ called _ layering hleft =>
      obtain rfl := Except.ok.inj (hsecond.symm.trans extracted)
      obtain rfl : broken = _ := congrArg Prod.fst (hfails.symm.trans called)
      have hleft : layering.renderer = left := hleft
      refine ⟨_, second, rfl, rfl, rfl, ?_, ?_⟩
      · rw [hleft]
        exact FaultyCanvas.steady _ 0
      · rw [hleft]
        rfl

/-- After a pass was lost, a run for another text than the one that was applied leaves its
result. -/
theorem next_run_recovers_of_lost :
    ∃ (session : Session FaultyCanvas) (result : Highlights),
      History ones { layering := { renderer := {} } } [.applied, .lost] session ∧
      Steady session.layering.renderer ∧ layers session.layering.renderer = [] ∧
      (extractAll ones (session.snapshot "1") (session.generation + 1)).outcome = .ok result ∧
      layers (session.run ones "1").1.layering.renderer = [("digit", [⟨0, 1, by decide⟩])] := by
  obtain ⟨session, history, hsettings, hgeneration, applied, steady, hempty⟩ := exists_history_lost
  have hsnapshot : session.snapshot "1" = "1" := by
    rw [snapshot, hsettings]
    rfl
  have extracted : (extractAll ones (session.snapshot "1") (session.generation + 1)).outcome =
      .ok { source := "1", spans := [("digit", [⟨0, 1, by decide⟩])], generation := 3 } := by
    rw [hsnapshot, hgeneration]
    rfl
  obtain ⟨hlayers, -, -⟩ := next_run_recovers_iff history steady extracted
  refine ⟨session, _, history, steady, hempty, extracted, hlayers.2 ?_⟩
  rw [applied, hsnapshot]
  simp

/-- After a pass was lost, a run for the text that was applied leaves the renderer empty, although
there is something to be found in the text. -/
theorem next_run_leaves_nothing :
    ∃ (session : Session FaultyCanvas) (result : Highlights),
      History ones { layering := { renderer := {} } } [.applied, .lost] session ∧
      Steady session.layering.renderer ∧
      (extractAll ones (session.snapshot "a1") (session.generation + 1)).outcome = .ok result ∧
      result.inhabited = [("digit", [⟨1, 2, by decide⟩])] ∧
      layers (session.run ones "a1").1.layering.renderer = [] := by
  obtain ⟨session, history, hsettings, hgeneration, applied, steady, hempty⟩ := exists_history_lost
  have hsnapshot : session.snapshot "a1" = "a1" := by
    rw [snapshot, hsettings]
    rfl
  have extracted : (extractAll ones (session.snapshot "a1") (session.generation + 1)).outcome =
      .ok { source := "a1", spans := [("digit", [⟨1, 2, by decide⟩])], generation := 3 } := by
    rw [hsnapshot, hgeneration]
    rfl
  refine ⟨session, _, history, steady, extracted, rfl, ?_⟩
  have hrun : (session.run ones "a1").1.layering = session.layering := by
    simp [run, begin, history.recorded.isOpen, hsnapshot, applied]
  rw [hrun, hempty]

end Example

end Highlighter.Session
