import Highlighter.Profiling
import Highlighter.Proofs.Counting.Passes

/-!
# Blocks in which work is counted

Work is recorded in the active counts, and these are those of the innermost block around it: a block
makes its own counts active when it begins, and those that were active before it when it ends. So of
all counts that there are, steps change the active ones only, by the work that is done directly and
not in a block of its own, and the same ones are active afterwards. `CountedStep.growsBy_runAll`
says this of a ledger whose active counts are among those it has; a new ledger is such a one, and
steps keep it so.

With what is known of the trace of a pass, this gives the account of all passes in a block. Results
do not depend on any counts.

## Main definitions

* `CountedStep.trace` — what a step leaves behind in the block that it is in
* `Ledger.GrowsBy` — only the active counts have changed, by a given tally
* `Accounted` — the counts of a block before and after passes

## Main results

* `CountedStep.growsBy_runAll` — counts go to the innermost block
* `CountedStep.run_block` — a block counts what is done in it, and nothing around it changes
* `CountedStep.outcomes_runAll` — outcomes do not depend on counts
* `counters_account_for_every_pass` — a sequence of passes is accounted for
-/

namespace Highlighter

/-! ## Ledgers -/

namespace Ledger

variable {ledger after : Ledger} {tally : Tally}

/-- The active counts are among those there are. -/
def IsSound (ledger : Ledger) : Prop :=
  ∀ place ∈ ledger.active, place < ledger.counts.length

/-- More counts after those of a ledger. -/
def append (ledger : Ledger) (made : List Tally) : Ledger :=
  { ledger with counts := ledger.counts ++ made }

/-- Only the active counts have changed, by the given tally. There may be more counts by now. -/
structure GrowsBy (ledger : Ledger) (tally : Tally) (after : Ledger) : Prop where
  active_eq : after.active = ledger.active
  current?_eq : after.current? = ledger.current?.map (·.add tally)
  others_eq : ∀ place counts, ledger.counts[place]? = some counts → ledger.active ≠ some place →
    after.counts[place]? = some counts
  sound : after.IsSound

@[simp]
theorem append_nil (ledger : Ledger) : ledger.append [] = ledger := by
  simp [append]

theorem append_append (ledger : Ledger) (first second : List Tally) :
    (ledger.append first).append second = ledger.append (first ++ second) := by
  simp [append]

theorem IsSound.append (sound : ledger.IsSound) (made : List Tally) :
    (ledger.append made).IsSound := by
  intro place hplace
  have hlt := sound place hplace
  simp only [Ledger.append, List.length_append]
  omega

theorem isSound_of_current? (h : ledger.current? = some tally) : ledger.IsSound := by
  intro place hplace
  rw [current?, Option.mem_def.1 hplace, Option.bind_some] at h
  exact (List.getElem?_eq_some_iff.1 h).1

theorem isSound_enter (ledger : Ledger) : ledger.enter.IsSound := by
  intro place hplace
  obtain rfl := Option.some.inj hplace
  simp [enter]

@[simp]
theorem active_record (ledger : Ledger) (tally : Tally) :
    (ledger.record tally).active = ledger.active := by
  unfold record
  split <;> rfl

@[simp]
theorem length_record (ledger : Ledger) (tally : Tally) :
    (ledger.record tally).counts.length = ledger.counts.length := by
  unfold record
  split <;> simp

@[simp]
theorem record_empty (ledger : Ledger) : ledger.record {} = ledger := by
  unfold record
  split
  · have same : (fun counts : Tally => counts.add {}) = id := funext Tally.add_zero
    rw [same, List.modify_id]
  · rfl

theorem IsSound.record (sound : ledger.IsSound) (tally : Tally) :
    (ledger.record tally).IsSound := by
  intro place hplace
  rw [active_record] at hplace
  rw [length_record]
  exact sound place hplace

/-- What is recorded in two pieces might have been recorded at once. -/
theorem record_record (ledger : Ledger) (first second : Tally) :
    (ledger.record first).record second = ledger.record (first.add second) := by
  obtain ⟨counts, active⟩ := ledger
  cases active with
  | none => rfl
  | some place =>
    simp only [record, List.modify_modify_eq]
    congr 2
    funext counts
    exact Tally.add_assoc counts first second

theorem getElem?_record (ledger : Ledger) (tally : Tally) (place : Nat) :
    (ledger.record tally).counts[place]? = ledger.counts[place]?.map fun counts =>
      if ledger.active = some place then counts.add tally else counts := by
  obtain ⟨counts, active⟩ := ledger
  cases active with
  | none => simp [record]
  | some other => simp [record, List.getElem?_modify]

/-- Work is recorded in the counts that are there, whatever others come after them. -/
theorem record_append (sound : ledger.IsSound) (made : List Tally) (tally : Tally) :
    (ledger.append made).record tally = (ledger.record tally).append made := by
  have hactive : ((ledger.append made).record tally).active =
      ((ledger.record tally).append made).active := by simp [append]
  have hcounts : ((ledger.append made).record tally).counts =
      ((ledger.record tally).append made).counts := by
    refine List.ext_getElem? fun place => ?_
    rw [getElem?_record]
    by_cases hlt : place < ledger.counts.length
    · have hlt' : place < (ledger.record tally).counts.length := by rwa [length_record]
      rw [append, append, List.getElem?_append_left hlt, List.getElem?_append_left hlt',
        getElem?_record]
    · -- a place after those of the ledger is not the active one
      have hge : ledger.counts.length ≤ place := Nat.le_of_not_lt hlt
      have inactive : ledger.active ≠ some place := fun h => hlt (sound place h)
      rw [append, append, List.getElem?_append_right hge,
        List.getElem?_append_right (by rwa [length_record]), length_record]
      simp [inactive]
  exact Ledger.mk.injEq .. ▸ ⟨hcounts, hactive⟩

theorem growsBy_record (sound : ledger.IsSound) (tally : Tally) (made : List Tally) :
    ledger.GrowsBy tally ((ledger.record tally).append made) where
  active_eq := active_record ledger tally
  current?_eq := by
    cases h : ledger.active with
    | none => simp [current?, append, h]
    | some place =>
      have hlt := sound place h
      simp [current?, append, h, List.getElem?_append, hlt, getElem?_record]
  others_eq place counts h inactive := by
    have hlt := (List.getElem?_eq_some_iff.1 h).1
    rw [append, List.getElem?_append_left (by rwa [length_record]), getElem?_record, h]
    simp [inactive]
  sound := (sound.record tally).append made

/-- What work in a new block leaves behind becomes the counts of that block. -/
theorem record_enter (ledger : Ledger) (tally : Tally) :
    ledger.enter.record tally = { ledger.enter with counts := ledger.counts ++ [tally] } := by
  simp [enter, record, List.modify_eq_take_drop]

end Ledger

/-! ## Steps -/

/-- What a step leaves behind in the block that it is in. A block of its own leaves nothing
behind. -/
def CountedStep.trace {α : Type} : CountedStep α → Trace
  | .work run => run.trace
  | .block _ => {}

/-- The outcome of work that has been done. -/
def CountedReport.outcome? {α : Type} : CountedReport α → Option (Except Fault α)
  | .worked outcome _ => some outcome
  | .counted _ => none

namespace CountedStep

variable {α : Type} {ledger : Ledger}

/-- What is recorded in the counts of a block becomes what the block shows. -/
theorem run_block_of_enter {steps : List (CountedStep α)} {tally : Tally} {made : List Tally}
    (h : (runAll ledger.enter steps).2 = (ledger.enter.record tally).append made) :
    run ledger (.block steps) =
      ((runAll ledger.enter steps).1 ++ [.counted tally], ledger.append (tally :: made)) := by
  simp only [run, h, Ledger.record_enter]
  simp [Ledger.append, Ledger.leave]

mutual

/-- A step is recorded in the active counts, and blocks in it add counts of their own. -/
theorem exists_run_snd (step : CountedStep α) (ledger : Ledger) :
    ∃ made, (step.run ledger).2 = (ledger.record step.trace.tally).append made := by
  match step with
  | .work run => exact ⟨[], by simp [CountedStep.run, trace]⟩
  | .block steps =>
    obtain ⟨made, hlast⟩ := exists_runAll_snd steps ledger.enter ledger.isSound_enter
    exact ⟨_ :: made, by rw [run_block_of_enter hlast, trace, Ledger.record_empty]⟩

theorem exists_runAll_snd (steps : List (CountedStep α)) (ledger : Ledger)
    (sound : ledger.IsSound) :
    ∃ made, (runAll ledger steps).2 =
      (ledger.record (Trace.join (steps.map trace)).tally).append made := by
  match steps with
  | [] => exact ⟨[], by simp [runAll]⟩
  | step :: steps =>
    obtain ⟨made, hfirst⟩ := exists_run_snd step ledger
    have sound' := sound.record step.trace.tally
    obtain ⟨others, hothers⟩ := exists_runAll_snd steps _ (sound'.append made)
    refine ⟨made ++ others, ?_⟩
    simp only [runAll, hfirst, hothers, Ledger.record_append sound', Ledger.append_append,
      Ledger.record_record, List.map_cons, Trace.join_cons, Trace.tally_append]

end

/-- A block shows the counts of what is done in it, and leaves nothing behind in the block around
it. -/
theorem run_block (ledger : Ledger) (steps : List (CountedStep α)) :
    ∃ made, run ledger (.block steps) =
      ((runAll ledger.enter steps).1 ++ [.counted (Trace.join (steps.map trace)).tally],
        ledger.append made) := by
  obtain ⟨made, hlast⟩ := exists_runAll_snd steps ledger.enter ledger.isSound_enter
  exact ⟨_, run_block_of_enter hlast⟩

/-- Of all counts, steps change the active ones only, and the same ones are active afterwards. -/
theorem growsBy_runAll (sound : ledger.IsSound) (steps : List (CountedStep α)) :
    ledger.GrowsBy (Trace.join (steps.map trace)).tally (runAll ledger steps).2 := by
  obtain ⟨made, hlast⟩ := exists_runAll_snd steps ledger sound
  rw [hlast]
  exact Ledger.growsBy_record sound _ made

mutual

theorem outcomes_run (step : CountedStep α) (ledger ledger' : Ledger) :
    (step.run ledger).1.filterMap CountedReport.outcome? =
      (step.run ledger').1.filterMap CountedReport.outcome? := by
  match step with
  | .work run => simp [CountedStep.run, CountedReport.outcome?]
  | .block steps =>
    simp only [CountedStep.run, List.filterMap_append]
    rw [outcomes_runAll steps ledger.enter ledger'.enter]
    rfl

/-- The outcomes of work do not depend on the counts, nor on whether there are any. -/
theorem outcomes_runAll (steps : List (CountedStep α)) (ledger ledger' : Ledger) :
    (runAll ledger steps).1.filterMap CountedReport.outcome? =
      (runAll ledger' steps).1.filterMap CountedReport.outcome? := by
  match steps with
  | [] => rfl
  | step :: steps =>
    simp only [runAll, List.filterMap_append]
    rw [outcomes_run step ledger ledger', outcomes_runAll steps]

end

/-- Work shows its own outcome. -/
theorem outcomes_runAll_work (ledger : Ledger) (runs : List (Run α)) :
    (runAll ledger (runs.map work)).1.filterMap CountedReport.outcome? = runs.map (·.outcome) := by
  induction runs generalizing ledger with
  | nil => rfl
  | cons run runs ih =>
    rw [List.map_cons, runAll, List.map_cons, ← ih]
    rfl

end CountedStep

/-! ## The account -/

section Account

variable [PatternReader]

/-- The counts of a block before and after passes that gave results. What their scanners leave
behind by themselves comes on top. -/
structure Accounted (surveys : List Survey) (results : List Highlights) (before after : Tally) :
    Prop where
  passes : after.passes = before.passes + surveys.length + (Survey.ownAll surveys).tally.passes
  sourceLength : after.sourceLength = before.sourceLength +
    (surveys.map (·.source.length)).sum + (Survey.ownAll surveys).tally.sourceLength
  /-- Every entry counts, whether or not it finds anything. -/
  rules : after.rules = before.rules +
    (surveys.map (·.profile.entries.length)).sum + (Survey.ownAll surveys).tally.rules
  ranges : after.ranges = before.ranges +
    (results.map Highlights.total).sum + (Survey.ownAll surveys).tally.ranges
  failures : after.failures = before.failures +
    (surveys.map Survey.failing).sum + (Survey.ownAll surveys).tally.failures
  /-- Entries that fail are reported, and nothing else is. -/
  reports : (Survey.traceAll surveys).reports.length =
    (surveys.map Survey.failing).sum + (Survey.ownAll surveys).reports.length
  /-- If no scanner by itself counts more failures or fewer than it reports, then there are as many
  failures as reports. -/
  balanced : (∀ survey ∈ surveys, ∀ entry ∈ survey.profile.entries,
      (entry.2.ownTrace survey.source).Balanced) →
    after.failures = before.failures + (Survey.traceAll surveys).reports.length
  /-- An entry that fails is reported once, counts as one failure and gives nothing; the others are
  neither reported nor counted as failures. -/
  entries : List.Forall₂ (fun survey result => ∀ entry ∈ survey.profile.entries,
    EntryCounted survey.source entry (result.get entry.1)) surveys results

theorem Survey.accounted {surveys : List Survey} {results : List Highlights}
    (gives : List.Forall₂ Survey.Gives surveys results) (before : Tally) :
    Accounted surveys results before (before.add (Survey.traceAll surveys).tally) := by
  obtain ⟨tally_eq, reports_eq⟩ := Survey.trace_surveys gives
  rw [tally_eq]
  constructor
  case passes | sourceLength | rules | ranges | failures =>
    simp only [Tally.add]
    omega
  case reports => omega
  case balanced =>
    intro balanced
    have own := Survey.balanced_ownAll balanced
    rw [Trace.Balanced] at own
    simp only [Tally.add]
    omega
  case entries => exact gives.imp fun survey result given => given.entryCounted

/-- The active counts account for all passes, and the passes give the results that they give without
any counts. Blocks may be nested: of all counts, steps change the active ones only, by the work that
is done directly, and a block shows the counts of the work that is done in it and changes none of
those that there were before it. -/
theorem counters_account_for_every_pass {surveys : List Survey} {results : List Highlights}
    (gives : List.Forall₂ Survey.Gives surveys results) {ledger : Ledger} {before : Tally}
    (active : ledger.current? = some before) :
    (∃ after, (CountedStep.runAll ledger (surveys.map fun survey => .work survey.run)).2.current? =
      some after ∧ Accounted surveys results before after) ∧
    (∀ ledger, (CountedStep.runAll ledger (surveys.map fun survey => .work survey.run)).1.filterMap
      CountedReport.outcome? = results.map .ok) ∧
    (∀ (ledger : Ledger) (steps : List (CountedStep Highlights)),
      (CountedStep.runAll ledger steps).1.filterMap CountedReport.outcome? =
        (CountedStep.runAll {} steps).1.filterMap CountedReport.outcome?) ∧
    (∀ (ledger : Ledger) (steps : List (CountedStep Highlights)), ledger.IsSound →
      ledger.GrowsBy (Trace.join (steps.map CountedStep.trace)).tally
        (CountedStep.runAll ledger steps).2) ∧
    ∀ (ledger : Ledger) (steps : List (CountedStep Highlights)),
      ∃ made, CountedStep.run ledger (.block steps) =
        ((CountedStep.runAll ledger.enter steps).1 ++
          [.counted (Trace.join (steps.map CountedStep.trace)).tally], ledger.append made) := by
  have works : (surveys.map fun survey => CountedStep.work survey.run) =
      (surveys.map Survey.run).map .work := by simp
  refine ⟨?_, ?_, fun ledger steps => CountedStep.outcomes_runAll steps ledger {},
    fun ledger steps sound => CountedStep.growsBy_runAll sound steps, CountedStep.run_block⟩
  · refine ⟨_, ?_, Survey.accounted gives before⟩
    have grows := CountedStep.growsBy_runAll (Ledger.isSound_of_current? active)
      (surveys.map fun survey => .work survey.run)
    rw [grows.current?_eq, active, List.map_map]
    rfl
  · intro ledger
    rw [works, CountedStep.outcomes_runAll_work]
    exact Survey.outcomes_eq gives

end Account

section Example

attribute [local instance] PatternReader.standard

/-- A scanner that raises, and keywords that cannot be matched. -/
def unlucky : Profile where
  entries :=
    [("fault", .scanner "fails" "function" fun _ => .fail (.general "no")),
      ("word", .keywordRule [.int 3])]

/-- Entries of every kind, and two more that fail. -/
def mixedSurveys : List Survey :=
  [{ profile := everyKind, source := "a+" },
    { profile := unlucky, source := "abc", generation := 1 }]

def mixedResults : List Highlights :=
  [{ source := "a+", spans := everyKindSpans },
    { source := "abc", spans := [("fault", []), ("word", [])], generation := 1 }]

/-- The counts of two blocks, the inner one of which is active. -/
def innerBlock : Ledger where
  counts := [{ passes := 2 }, { passes := 7, failures := 1 }]
  active := some 1

theorem mixedSurveys_accounted :
    List.Forall₂ Survey.Gives mixedSurveys mixedResults ∧
      (CountedStep.runAll innerBlock (mixedSurveys.map fun survey => .work survey.run)).2.current? =
        some { passes := 9, rules := 7, ranges := 4, failures := 4, sourceLength := 5 } ∧
      (CountedStep.runAll innerBlock
          (mixedSurveys.map fun survey => .work survey.run)).2.counts[0]? =
        some { passes := 2 } ∧
      (Survey.traceAll mixedSurveys).reports.length = 3 := by
  have gives : List.Forall₂ Survey.Gives mixedSurveys mixedResults :=
    .cons extractAll_everyKind (.cons rfl .nil)
  have active : innerBlock.current? = some { passes := 7, failures := 1 } := rfl
  obtain ⟨⟨after, ends, accounted⟩, -, -, grows, -⟩ := counters_account_for_every_pass gives active
  have own : Survey.ownAll mixedSurveys = {} := by decide +kernel
  have failing : (mixedSurveys.map Survey.failing).sum = 3 := by decide +kernel
  have reports := accounted.reports
  rw [own, failing] at reports
  have outer := (grows innerBlock (mixedSurveys.map fun survey => .work survey.run)
    (Ledger.isSound_of_current? active)).others_eq 0 { passes := 2 } rfl (by decide)
  refine ⟨gives, ?_, outer, reports⟩
  obtain ⟨passes, rules, ranges, failures, sourceLength⟩ := after
  rw [ends, Option.some.injEq, Tally.mk.injEq]
  refine ⟨accounted.passes.trans ?_, accounted.rules.trans ?_, accounted.ranges.trans ?_,
    accounted.failures.trans ?_, accounted.sourceLength.trans ?_⟩
  case refine_4 => rw [own, failing]; rfl
  all_goals rw [own]; rfl

end Example

end Highlighter
