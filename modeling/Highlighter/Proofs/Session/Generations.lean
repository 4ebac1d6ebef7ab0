import Highlighter.Proofs.Session.Interleaving

/-!
# Generations

Passes are numbered by generations, and a pass that is not the newest when its profile arrives is
discarded. In every course, whatever the renderer does, generations are given out in increasing
order, results are applied in increasing order, and the result that is applied is always the newest
one.

The invariant is `Ordered`. Besides the order of the generations so far it says that no pass under
way has the generation of the result that was applied, which is what makes the last check before
applying superfluous: the newest pass is always ahead of the applied one.

## Main definitions

* `Workload.Ordered` — how the generations of a course are ordered

## Main results

* `Workload.Course.ordered` — every course is ordered
* `Workload.results_in_generation_order` — results are applied in increasing order only
-/

namespace Highlighter.Workload

variable {σ : Type}

/-- How the generations of a course are ordered that has led to a workload. -/
structure Ordered (events : List (Event σ)) (w : Workload σ) : Prop where
  applied_le : w.session.appliedGeneration ≤ w.session.generation
  passes_increase : (passes events).Pairwise (·.generation < ·.generation)
  pass_le : ∀ pass ∈ passes events, pass.generation ≤ w.session.generation
  request_mem : ∀ request ∈ w.requests, request.pass ∈ passes events
  /-- No two passes under way have one generation. -/
  requests_distinct : w.requests.Pairwise (·.pass.generation ≠ ·.pass.generation)
  request_ne_applied : ∀ request ∈ w.requests,
    request.pass.generation ≠ w.session.appliedGeneration
  results_increase : (results events).Pairwise (·.2.generation < ·.2.generation)
  result_le : ∀ entry ∈ results events, entry.2.generation ≤ w.session.appliedGeneration

namespace Ordered

variable {events : List (Event σ)} {event : Event σ} {w w' : Workload σ}

theorem request_le (ordered : Ordered events w) {request : Request} (h : request ∈ w.requests) :
    request.pass.generation ≤ w.session.generation :=
  ordered.pass_le _ (ordered.request_mem request h)

/-- The newest pass is ahead of the result that was applied. -/
theorem applied_lt (ordered : Ordered events w) {request : Request} (h : request ∈ w.requests)
    (newest : request.pass.generation = w.session.generation) :
    w.session.appliedGeneration < request.pass.generation := by
  have hle := ordered.applied_le
  have hne := ordered.request_ne_applied request h
  omega

/-- Order is kept if no pass begins to wait and no result is applied. -/
theorem quiet (ordered : Ordered events w) (noPass : event.pass? = none)
    (noResult : event.result? = none)
    (later : w.session.generation ≤ w'.session.generation)
    (same : w'.session.appliedGeneration = w.session.appliedGeneration)
    (fewer : w'.requests.Sublist w.requests) : Ordered (events ++ [event]) w' := by
  have hpasses : passes (events ++ [event]) = passes events := by simp [passes_snoc, noPass]
  have hresults : results (events ++ [event]) = results events := by simp [results_snoc, noResult]
  refine
    { applied_le := ?_
      passes_increase := hpasses ▸ ordered.passes_increase
      pass_le := ?_
      request_mem := ?_
      requests_distinct := ordered.requests_distinct.sublist fewer
      request_ne_applied := ?_
      results_increase := hresults ▸ ordered.results_increase
      result_le := ?_ }
  · rw [same]
    exact Nat.le_trans ordered.applied_le later
  · intro pass hpass
    rw [hpasses] at hpass
    exact Nat.le_trans (ordered.pass_le pass hpass) later
  · intro request hrequest
    rw [hpasses]
    exact ordered.request_mem request (fewer.subset hrequest)
  · intro request hrequest
    rw [same]
    exact ordered.request_ne_applied request (fewer.subset hrequest)
  · intro entry hentry
    rw [hresults] at hentry
    rw [same]
    exact ordered.result_le entry hentry

/-- Order is kept if a pass begins with the next generation. -/
theorem issue (ordered : Ordered events w) {pass : Pass} (isPass : event.pass? = some pass)
    (noResult : event.result? = none) (next : pass.generation = w.session.generation + 1)
    (newest : w'.session.generation = pass.generation)
    (same : w'.session.appliedGeneration = w.session.appliedGeneration) {request : Request}
    (its : request.pass = pass) (more : w'.requests = w.requests ++ [request]) :
    Ordered (events ++ [event]) w' := by
  have hpasses : passes (events ++ [event]) = passes events ++ [pass] := by
    simp [passes_snoc, isPass]
  have hresults : results (events ++ [event]) = results events := by simp [results_snoc, noResult]
  have happlied := ordered.applied_le
  refine
    { applied_le := by omega
      passes_increase := ?_
      pass_le := ?_
      request_mem := ?_
      requests_distinct := ?_
      request_ne_applied := ?_
      results_increase := hresults ▸ ordered.results_increase
      result_le := ?_ }
  · rw [hpasses, List.pairwise_append]
    refine ⟨ordered.passes_increase, List.pairwise_singleton _ _, ?_⟩
    intro earlier hearlier last hlast
    rw [List.mem_singleton.1 hlast]
    have hle := ordered.pass_le earlier hearlier
    omega
  · intro earlier hearlier
    rw [hpasses, List.mem_append, List.mem_singleton] at hearlier
    rcases hearlier with hearlier | rfl
    · have hle := ordered.pass_le earlier hearlier
      omega
    · exact Nat.le_of_eq newest.symm
  · intro other hother
    rw [more, List.mem_append, List.mem_singleton] at hother
    rw [hpasses]
    rcases hother with hother | rfl
    · exact List.mem_append_left _ (ordered.request_mem other hother)
    · exact List.mem_append_right _ (List.mem_singleton.2 its)
  · rw [more, List.pairwise_append]
    refine ⟨ordered.requests_distinct, List.pairwise_singleton _ _, ?_⟩
    intro earlier hearlier last hlast
    rw [List.mem_singleton.1 hlast, its]
    have hle := ordered.request_le hearlier
    omega
  · intro other hother
    rw [more, List.mem_append, List.mem_singleton] at hother
    rw [same]
    rcases hother with hother | rfl
    · exact ordered.request_ne_applied other hother
    · rw [its]
      omega
  · intro entry hentry
    rw [hresults] at hentry
    rw [same]
    exact ordered.result_le entry hentry

/-- Order is kept if the newest pass is applied. -/
theorem apply (ordered : Ordered events w) {request : Request} {result : Highlights}
    (noPass : event.pass? = none) (isResult : event.result? = some (request, result))
    {before after : List Request} (waits : w.requests = before ++ request :: after)
    (fewer : w'.requests = before ++ after)
    (newest : request.pass.generation = w.session.generation)
    (same : w'.session.generation = w.session.generation)
    (its : result.generation = request.pass.generation)
    (moved : w'.session.appliedGeneration = request.pass.generation) :
    Ordered (events ++ [event]) w' := by
  have hpasses : passes (events ++ [event]) = passes events := by simp [passes_snoc, noPass]
  have hresults : results (events ++ [event]) = results events ++ [(request, result)] := by
    simp [results_snoc, isResult]
  have hrequest : request ∈ w.requests := by simp [waits]
  have hsub : w'.requests.Sublist w.requests := fewer ▸ sublist_of_waits waits
  have hahead := ordered.applied_lt hrequest newest
  refine
    { applied_le := by omega
      passes_increase := hpasses ▸ ordered.passes_increase
      pass_le := by rw [hpasses, same]; exact ordered.pass_le
      request_mem := ?_
      requests_distinct := ordered.requests_distinct.sublist hsub
      request_ne_applied := ?_
      results_increase := ?_
      result_le := ?_ }
  · intro other hother
    rw [hpasses]
    exact ordered.request_mem other (hsub.subset hother)
  · -- the request that was completed is gone, and no other one has its generation
    intro other hother
    have hdistinct := ordered.requests_distinct
    rw [waits, List.pairwise_append, List.pairwise_cons] at hdistinct
    obtain ⟨-, ⟨hafter, -⟩, hbefore⟩ := hdistinct
    rw [fewer, List.mem_append] at hother
    rw [moved]
    rcases hother with hother | hother
    · exact hbefore other hother request List.mem_cons_self
    · exact (hafter other hother).symm
  · rw [hresults, List.pairwise_append]
    refine ⟨ordered.results_increase, List.pairwise_singleton _ _, ?_⟩
    intro earlier hearlier last hlast
    rw [List.mem_singleton.1 hlast]
    have hle := ordered.result_le earlier hearlier
    simp only
    omega
  · intro entry hentry
    rw [hresults, List.mem_append, List.mem_singleton] at hentry
    rcases hentry with hentry | rfl
    · have hle := ordered.result_le entry hentry
      omega
    · simp only
      omega

theorem begin (ordered : Ordered events w) {text : String} {session : Session σ}
    {pass : Option Pass} (begins : w.session.Begins text session pass)
    (due : List (Nat × String)) (isPass : event.pass? = pass) (noResult : event.result? = none) :
    Ordered (events ++ [event]) (w.begun session pass due) := by
  cases begins with
  | closed _ => exact ordered.quiet isPass noResult (Nat.le_refl _) rfl (by simp)
  | same _ _ =>
    exact ordered.quiet isPass noResult w.session.generation_le_renewedGeneration rfl (by simp)
  | other _ _ => exact ordered.issue isPass noResult rfl rfl rfl rfl rfl

variable [Renderer σ] [PatternReader]

theorem complete (ordered : Ordered events w) {request : Request} {before after : List Request}
    (waits : w.requests = before ++ request :: after) {profile : Profile} {session : Session σ}
    {outcome : Except Fault (Option Highlights)}
    (completes : w.session.Completes request.pass profile session outcome) :
    Ordered (events ++ [.complete request profile outcome])
      { w with session, requests := before ++ after } := by
  have hfewer := sublist_of_waits waits
  cases completes with
  | stale _ => exact ordered.quiet rfl rfl (Nat.le_refl _) rfl hfewer
  | raised _ _ => exact ordered.quiet rfl rfl (Nat.le_refl _) rfl hfewer
  | barred _ _ => exact ordered.quiet rfl rfl (Nat.le_refl _) rfl hfewer
  | applied newest extracted _ _ =>
    exact ordered.apply rfl rfl waits rfl newest rfl (generation_extractAll extracted) rfl
  | failed _ _ _ _ _ => exact ordered.quiet rfl rfl (Nat.le_refl _) rfl hfewer

/-- Whatever happens next, the order is kept. -/
theorem step (ordered : Ordered events w) (happens : Step w event w') :
    Ordered (events ++ [event]) w' := by
  cases happens with
  | notify text =>
    refine ordered.quiet rfl rfl ?_ ?_ (List.Sublist.refl _) <;>
      simp [Workload.notify, Session.notify_eq]
  | ring _ => exact ordered.quiet rfl rfl (Nat.le_refl _) rfl (List.Sublist.refl _)
  | call text => exact ordered.begin (w.session.begins_begin text) w.due rfl rfl
  | take _ => exact ordered.begin (w.session.begins_begin _) _ rfl rfl
  | complete waits profile => exact ordered.complete waits (w.session.completes_complete _ profile)
  | drop _ => exact ordered.quiet rfl rfl (Nat.le_refl _) rfl (List.Sublist.refl _)
  | cancel waits => exact ordered.quiet rfl rfl (Nat.le_refl _) rfl (sublist_of_waits waits)
  | setProfile identifier =>
    exact ordered.quiet rfl rfl (Nat.le_refl _) rfl (List.Sublist.refl _)
  | close => exact ordered.quiet rfl rfl (Nat.le_succ _) rfl (List.Sublist.refl _)
  | disturb renderer => exact ordered.quiet rfl rfl (Nat.le_refl _) rfl (List.Sublist.refl _)

/-- The newest pass is applied when its profile arrives, if nothing fails. -/
theorem exists_step_applied (ordered : Ordered events w) {request : Request}
    {before after : List Request} (waits : w.requests = before ++ request :: after)
    (newest : request.pass.generation = w.session.generation)
    (steady : Renderer.Steady w.session.layering.renderer) {profile : Profile}
    {result : Highlights}
    (extracted : (extractAll profile request.pass.text request.pass.generation).outcome =
      .ok result) :
    ∃ layering : Layering σ, Step w (.complete request profile (.ok (some result)))
      { w with
        session := { w.session with
          layering
          appliedText := some request.pass.text
          appliedGeneration := request.pass.generation
          lastResult := some result
          stage := .idle }
        requests := before ++ after } := by
  have happens := Step.complete w waits profile
  have hcompletes := w.session.completes_complete request.pass profile
  have hahead := ordered.applied_lt (by simp [waits]) newest
  unfold Workload.complete at happens
  generalize (w.session.complete request.pass profile).1 = session at hcompletes happens
  generalize (w.session.complete request.pass profile).2.outcome = outcome at hcompletes happens
  cases hcompletes with
  | stale outdated => exact absurd newest outdated
  | raised _ raised => cases extracted.symm.trans raised
  | barred _ passed => exact absurd passed (Nat.not_le.2 hahead)
  | @applied _ _ extracted' _ layering _ =>
    obtain rfl := Except.ok.inj (extracted.symm.trans extracted')
    exact ⟨layering, happens⟩
  | failed _ _ _ called _ =>
    rw [steady.callAll_eq] at called
    cases called

end Ordered

section Course

variable [Renderer σ] [PatternReader]
variable {settings : Settings} {identifier : Identifier} {renderer : σ}
variable {events : List (Event σ)} {w : Workload σ}

/-- Every course is ordered. -/
theorem Course.ordered (course : Course (fresh settings identifier renderer) events w) :
    Ordered events w := by
  induction course with
  | nil =>
    exact
      { applied_le := Nat.le_refl _
        passes_increase := List.Pairwise.nil
        pass_le := by simp [passes]
        request_mem := by simp [fresh]
        requests_distinct := List.Pairwise.nil
        request_ne_applied := by simp [fresh]
        results_increase := List.Pairwise.nil
        result_le := by simp [results] }
  | snoc _ happens ih => exact ih.step happens

/-- Results are applied in increasing order of their generations only, whatever the renderer does:
the generations of the results that passes return increase; the result that a pass returns has the
newest generation at that moment; the applied generation never exceeds the newest one; passes have
different generations; and the newest pass is never found behind the result that was applied. -/
theorem results_in_generation_order
    (course : Course (fresh settings identifier renderer) events w) :
    (results events).Pairwise (·.2.generation < ·.2.generation) ∧
    (∀ request profile result w', Step w (.complete request profile (.ok (some result))) w' →
      result.generation = w.session.generation ∧ result.generation = w'.session.generation ∧
        result.generation = w'.session.appliedGeneration) ∧
    w.session.appliedGeneration ≤ w.session.generation ∧
    (passes events).Pairwise (·.generation < ·.generation) ∧
    ∀ request ∈ w.requests, request.pass.generation = w.session.generation →
      ¬ request.pass.generation ≤ w.session.appliedGeneration := by
  have ordered := course.ordered
  refine ⟨ordered.results_increase, ?_, ordered.applied_le, ordered.passes_increase, ?_⟩
  · intro request profile result w' happens
    obtain ⟨before, after, session, -, completes, rfl⟩ := happens.of_complete
    cases completes with
    | applied newest extracted _ _ =>
      have hits := generation_extractAll extracted
      exact ⟨hits.trans newest, hits.trans newest, hits⟩
  · intro request hrequest newest
    exact Nat.not_le.2 (ordered.applied_lt hrequest newest)

end Course

section Example

attribute [local instance] PatternReader.standard

/-- The renderer fails once, an older pass is overtaken, and two passes are applied. -/
theorem results_in_generation_order_of_overtaken :
    ∃ (events : List (Event FaultyCanvas)) (w : Workload FaultyCanvas),
      Course (fresh {} .nothing { outage := { clear := 1 } }) events w ∧
      (passes events).map (·.generation) = [1, 2, 3, 4] ∧
      (results events).map (·.2.generation) = [3, 4] ∧
      (results events).Pairwise (·.2.generation < ·.2.generation) ∧
      w.session.appliedGeneration ≤ w.session.generation := by
  let request (generation : Nat) (text : String) : Request := ⟨⟨generation, text⟩, .nothing⟩
  have course := (Course.nil : Course (fresh {} .nothing
      ({ outage := { clear := 1 } } : FaultyCanvas)) [] _)
    |>.snoc (.call _ "a") |>.snoc (.call _ "b")
    |>.snoc (.complete _ (rfl : _ = [request 1 "a"] ++ request 2 "b" :: []) {})
    |>.snoc (.call _ "c")
    |>.snoc (.complete _ (rfl : _ = [] ++ request 1 "a" :: [request 3 "c"]) {})
    |>.snoc (.complete _ (rfl : _ = [] ++ request 3 "c" :: []) {})
    |>.snoc (.call _ "d")
    |>.snoc (.complete _ (rfl : _ = [] ++ request 4 "d" :: []) {})
  obtain ⟨hresults, -, happlied, -⟩ := results_in_generation_order course
  exact ⟨_, _, course, rfl, rfl, hresults, happlied⟩

end Example

end Highlighter.Workload
