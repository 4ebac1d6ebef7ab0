import Highlighter.Proofs.Session.Generations

/-!
# When the renderer fails

A pass whose result cannot be applied returns nothing and leaves the record of the session as it
was. The renderer has been called up to the call that failed, so it may hold some types of the new
result and none of the last one. The last result is therefore applied again, and if no call fails
any more the renderer holds what it held before.

If there is no last result, nothing is applied again. Then the renderer holds what it held before
only if the call that failed was the first that would have changed it: the one that removes
everything, or the first one that registers. After a later failure the types that were registered
stay on the renderer.

## Main definitions

* `Session.lastLayers` — what the renderer holds if it shows the last result

## Main results

* `Workload.Course.lastResult_nodup` — the types of the last result are distinct
* `Workload.failed_pass_rolled_back_iff` — what a pass leaves if one call of the renderer fails
* `Workload.failed_first_pass_left_behind` — a pass that leaves types of its result behind
-/

namespace Highlighter

/-- The types of the last result that have a span, or none if there is no last result. -/
def Session.lastLayers {σ : Type} (session : Session σ) : List (String × List Span) :=
  match session.lastResult with
  | some result => result.inhabited
  | none => []

namespace Workload

open Renderer Layered

section Reading

variable {σ : Type} [Renderer σ] [PatternReader]

/-- The last result after an event is the one before, or none, or the result of a profile. -/
theorem Step.lastResult_cases {w w' : Workload σ} {event : Event σ} (happens : Step w event w') :
    w'.session.lastResult = w.session.lastResult ∨ w'.session.lastResult = none ∨
      ∃ result, w'.session.lastResult = some result ∧ result.types.Nodup := by
  cases happens with
  | notify text => exact Or.inl (by simp [Workload.notify, Session.notify_eq])
  | call text => exact Or.inl (w.session.begins_begin text).frame.2.2.2
  | take _ => exact Or.inl (w.session.begins_begin _).frame.2.2.2
  | complete _ profile =>
    rcases (w.session.completes_complete _ profile).lastResult_cases with hsame | hnew
    · exact Or.inl hsame
    · exact Or.inr (Or.inr hnew)
  | close => exact Or.inr (Or.inl rfl)
  | _ => exact Or.inl rfl

section Course

variable {settings : Settings} {identifier : Identifier} {renderer : σ}
variable {events : List (Event σ)} {w w' : Workload σ}

/-- The types of the last result are distinct. -/
theorem Course.lastResult_nodup (course : Course (fresh settings identifier renderer) events w) :
    ∀ result, w.session.lastResult = some result → result.types.Nodup := by
  induction course with
  | nil => exact fun _ h => nomatch h
  | snoc _ happens ih =>
    intro result hresult
    rcases happens.lastResult_cases with hsame | hnone | ⟨other, hother, hnodup⟩
    · exact ih result (hsame ▸ hresult)
    · cases hnone.symm.trans hresult
    · obtain rfl := Option.some.inj (hother.symm.trans hresult)
      exact hnodup

/-- A call of the renderer fails while the result of the newest pass is applied. Then the pass
returns nothing, and only the renderer changes: the last result is applied to what is left. -/
theorem Course.session_of_raisesAt
    (course : Course (fresh settings identifier renderer) events w)
    {request : Request} (newest : request.pass.generation = w.session.generation)
    {profile : Profile} {result : Highlights}
    (extracted : (extractAll profile request.pass.text request.pass.generation).outcome =
      .ok result)
    {position : Nat} {broken : σ}
    (raises : RaisesAt w.session.layering.renderer result.calls position broken)
    {outcome : Except Fault (Option Highlights)}
    (happens : Step w (.complete request profile outcome) w') :
    ∃ layering : Layering σ, outcome = .ok none ∧
      w'.session = { w.session with layering, stage := .idle } ∧
      layering.renderer = Session.restored broken w.session.lastResult := by
  obtain ⟨before, after, session, waits, completes, rfl⟩ := happens.of_complete
  obtain ⟨fault, hcalled⟩ := raises.callAll_eq
  have hahead := course.ordered.applied_lt (by simp [waits]) newest
  cases completes with
  | stale outdated => exact absurd newest outdated
  | raised _ raised => cases extracted.symm.trans raised
  | barred _ passed => exact absurd passed (Nat.not_le.2 hahead)
  | applied _ extracted' _ called =>
    obtain rfl := Except.ok.inj (extracted.symm.trans extracted')
    cases hcalled.symm.trans called
  | @failed _ result' extracted' _ broken' _ called layering again =>
    obtain rfl := Except.ok.inj (extracted.symm.trans extracted')
    obtain rfl : broken = broken' := congrArg Prod.fst (hcalled.symm.trans called)
    exact ⟨layering, rfl, rfl, again⟩

variable [Layered σ]

omit [PatternReader] in
/-- Applying the last result again brings it back, if no call fails. -/
theorem layers_restored_some {broken : σ} (steady : Steady broken) {last : Highlights}
    (distinct : last.types.Nodup) :
    layers (Session.restored broken (some last)) = last.inhabited :=
  layers_callAll_calls distinct (steady.callAll_eq last.calls)

omit [PatternReader] in
/-- An empty renderer stays empty exactly if a call fails before anything was registered. -/
theorem layers_eq_nil_iff_of_raisesAt {broken : σ} {result : Highlights} {position : Nat}
    (distinct : result.types.Nodup) (empty : layers renderer = [])
    (raises : RaisesAt renderer result.calls position broken) :
    layers broken = [] ↔ position ≤ 1 := by
  cases position with
  | zero => simp [layers_of_raisesAt_zero raises, empty]
  | succ registered =>
    -- there is a type that could not be registered, so those before it are none or some
    obtain ⟨hlayers, hlt⟩ := layers_of_raisesAt_succ distinct raises
    have hsome : result.inhabited ≠ [] := List.ne_nil_of_length_pos (by omega)
    rw [hlayers, List.take_eq_nil_iff, or_iff_left hsome]
    omega

/-- One call of the renderer fails while the result of a pass is applied, at any position, and no
later one does. The renderer held the last result before, or nothing if there was none. Then the
pass returns nothing and leaves the record as it was. The renderer holds the same as before exactly
if there was a last result, or nothing had been registered when the call failed. -/
theorem failed_pass_rolled_back_iff
    (course : Course (fresh settings identifier renderer) events w)
    (shown : layers w.session.layering.renderer = w.session.lastLayers)
    {request : Request} (newest : request.pass.generation = w.session.generation)
    {profile : Profile} {result : Highlights}
    (extracted : (extractAll profile request.pass.text request.pass.generation).outcome =
      .ok result)
    {position : Nat} {broken : σ}
    (raises : RaisesAt w.session.layering.renderer result.calls position broken)
    (steady : Steady broken) {outcome : Except Fault (Option Highlights)}
    (happens : Step w (.complete request profile outcome) w') :
    outcome = .ok none ∧ w'.session.lastResult = w.session.lastResult ∧
      w'.session.appliedText = w.session.appliedText ∧
      w'.session.appliedGeneration = w.session.appliedGeneration ∧
      (layers w'.session.layering.renderer = w.session.lastLayers ↔
        (w.session.lastResult = none → position ≤ 1)) := by
  obtain ⟨layering, hnone, hsession, hagain⟩ :=
    course.session_of_raisesAt newest extracted raises happens
  rw [hsession]
  refine ⟨hnone, rfl, rfl, rfl, ?_⟩
  dsimp only
  rw [hagain]
  unfold Session.lastLayers at shown ⊢
  cases hlast : w.session.lastResult with
  | none =>
    -- nothing is applied again, so what the calls before the failure left is what stays
    rw [hlast] at shown
    simpa [Session.restored] using
      layers_eq_nil_iff_of_raisesAt (nodup_types_extractAll extracted) shown raises
  | some last =>
    have hrestored := layers_restored_some steady (course.lastResult_nodup last hlast)
    simp [hrestored]

end Course

end Reading

section Example

attribute [local instance] PatternReader.standard

/-- The second type of a result cannot be registered, and the last result is brought back. -/
theorem failed_pass_rolled_back_to_last :
    ∃ (events : List (Event FaultyCanvas)) (w w' : Workload FaultyCanvas) (request : Request)
      (profile : Profile) (result : Highlights) (broken : FaultyCanvas),
      Course (fresh {} .nothing {}) events w ∧
      layers w.session.layering.renderer = w.session.lastLayers ∧
      w.session.lastLayers = [("digit", [⟨1, 2, by decide⟩])] ∧
      request.pass.generation = w.session.generation ∧
      (extractAll profile request.pass.text request.pass.generation).outcome = .ok result ∧
      RaisesAt w.session.layering.renderer result.calls 2 broken ∧ Steady broken ∧
      Step w (.complete request profile (.ok none)) w' ∧
      layers w'.session.layering.renderer = w.session.lastLayers := by
  let profile : Profile :=
    { entries := [("letter", .pattern (.constant "b")), ("digit", .pattern (.constant "1"))] }
  let request (generation : Nat) (text : String) : Request := ⟨⟨generation, text⟩, .nothing⟩
  let last : Highlights :=
    { source := "a1", spans := [("letter", []), ("digit", [⟨1, 2, by decide⟩])], generation := 1 }
  let result : Highlights :=
    { source := "1b", generation := 2,
      spans := [("letter", [⟨1, 2, by decide⟩]), ("digit", [⟨0, 1, by decide⟩])] }
  let renderer : FaultyCanvas :=
    { canvas := { layers := last.inhabited }, outage := { register := 1, skip := 1 } }
  have extracted : (extractAll profile "1b" 2).outcome = .ok result := by rfl
  have raises : RaisesAt renderer result.calls 2
      { canvas := { layers := result.inhabited.take 1, registerCalls := 1, clearCalls := 1 } } :=
    ⟨_, _, _, rfl, rfl, rfl⟩
  -- the last result is applied, then one registration is made to fail, and then the pass begins
  have first := (Course.nil : Course (fresh {} .nothing ({} : FaultyCanvas)) [] _).snoc
    (.call _ "a1")
  obtain ⟨layering, happens⟩ := first.ordered.exists_step_applied
    (rfl : _ = [] ++ request 1 "a1" :: []) rfl (FaultyCanvas.steady _ 0)
    (rfl : (extractAll profile "a1" 1).outcome = .ok last)
  have course := ((first.snoc happens).snoc (.disturb _ renderer)).snoc (.call _ "1b")
  obtain ⟨hnone, -, -, -, hrolled⟩ := failed_pass_rolled_back_iff course rfl
    (rfl : (request 2 "1b").pass.generation = _) extracted raises (FaultyCanvas.steady _ 0)
    (.complete _ (rfl : _ = [] ++ request 2 "1b" :: []) profile)
  refine ⟨_, _, _, request 2 "1b", profile, result, _, course, rfl, rfl, rfl, extracted, raises,
    FaultyCanvas.steady _ 0, ?_, hrolled.2 (fun h => nomatch h)⟩
  rw [← hnone]
  exact .complete _ (rfl : _ = [] ++ request 2 "1b" :: []) profile

/-- The second type of the first result cannot be registered. The pass returns nothing, but the
first type stays on the renderer. -/
theorem failed_first_pass_left_behind :
    ∃ (events : List (Event FaultyCanvas)) (w w' : Workload FaultyCanvas) (request : Request)
      (profile : Profile) (result : Highlights) (broken : FaultyCanvas),
      Course (fresh {} .nothing { outage := { register := 1, skip := 1 } }) events w ∧
      w.session.closed = false ∧ w.session.lastResult = none ∧
      layers w.session.layering.renderer = [] ∧
      request.pass.generation = w.session.generation ∧
      (extractAll profile request.pass.text request.pass.generation).outcome = .ok result ∧
      RaisesAt w.session.layering.renderer result.calls 2 broken ∧ Steady broken ∧
      Step w (.complete request profile (.ok none)) w' ∧ w'.session.lastResult = none ∧
      layers w'.session.layering.renderer = [("letter", [⟨1, 2, by decide⟩])] := by
  let profile : Profile :=
    { entries := [("letter", .pattern (.constant "b")), ("digit", .pattern (.constant "1"))] }
  let request : Request := ⟨⟨1, "1b"⟩, .nothing⟩
  let result : Highlights :=
    { source := "1b", generation := 1,
      spans := [("letter", [⟨1, 2, by decide⟩]), ("digit", [⟨0, 1, by decide⟩])] }
  let start : Workload FaultyCanvas := fresh {} .nothing { outage := { register := 1, skip := 1 } }
  let broken : FaultyCanvas :=
    { canvas := { layers := result.inhabited.take 1, registerCalls := 1, clearCalls := 1 } }
  have course : Course start _ _ := Course.nil.snoc (.call start "1b")
  have extracted : (extractAll profile "1b" 1).outcome = .ok result := by rfl
  have raises : RaisesAt (start.begin "1b" []).session.layering.renderer result.calls 2 broken :=
    ⟨_, _, _, rfl, rfl, rfl⟩
  have happens := Step.complete (start.begin "1b" []) (rfl : _ = [] ++ request :: []) profile
  obtain ⟨layering, hnone, hsession, hagain⟩ :=
    course.session_of_raisesAt (rfl : request.pass.generation = _) extracted raises happens
  rw [hnone] at happens
  refine ⟨_, _, _, request, profile, result, broken, course, rfl, rfl, rfl, rfl, extracted, raises,
    FaultyCanvas.steady _ 0, happens, ?_, ?_⟩
  · rw [hsession]
    rfl
  · rw [hsession]
    exact congrArg layers hagain

end Example

end Workload

end Highlighter
