import Highlighter.Proofs.Extraction.Agreement

/-!
# What passes count and report

Extraction leaves a trace besides its result: it counts its passes, rules, spans and failures, and
reports in the log. Every entry of a profile counts as one rule, whether it finds anything or not,
and an entry that fails counts as one failure and is reported once. A scanner may leave a trace of
its own, for instance because it extracts spans itself. This is kept apart here as `Value.ownTrace`,
and everything else is accounted for exactly.

## Main definitions

* `Trace.reports`, `Trace.Balanced` — the warnings of extraction; as many as failures are counted
* `Value.ownTrace` — what the scanner of a value leaves behind by itself
* `EntryCounted` — what an entry counts and reports
* `Survey` — a profile that is applied to a text

## Main results

* `trace_extract_of_fails`, `trace_extract_of_works` — the trace of an entry
* `Survey.Gives.tally_eq`, `Survey.Gives.length_reports` — the trace of a pass
* `Survey.trace_surveys` — the trace of a sequence of passes
-/

namespace Highlighter

/-! ## Reports -/

/-- The warnings in the log of extraction. -/
def Trace.reports (trace : Trace) : List Notice :=
  trace.warnings.filter (·.origin == "tinta.extraction")

@[simp]
theorem Trace.reports_append (a b : Trace) : (a ++ b).reports = a.reports ++ b.reports := by
  simp [reports]

theorem Trace.IsQuiet.reports_eq {trace : Trace} (quiet : trace.IsQuiet) : trace.reports = [] := by
  simp [reports, quiet.1]

/-- As many failures are counted as are reported. -/
def Trace.Balanced (trace : Trace) : Prop :=
  trace.tally.failures = trace.reports.length

/-- The traces of pieces of work that are done one after the other. -/
def Trace.join (traces : List Trace) : Trace :=
  traces.foldr (· ++ ·) {}

@[simp]
theorem Trace.join_nil : Trace.join [] = {} :=
  rfl

@[simp]
theorem Trace.join_cons (trace : Trace) (traces : List Trace) :
    Trace.join (trace :: traces) = trace ++ Trace.join traces :=
  rfl

theorem Trace.balanced_join {traces : List Trace} (h : ∀ trace ∈ traces, trace.Balanced) :
    (Trace.join traces).Balanced := by
  induction traces with
  | nil => rfl
  | cons trace traces ih =>
    have head := h trace List.mem_cons_self
    have tail := ih fun other mem => h other (List.mem_cons_of_mem _ mem)
    rw [Balanced] at head tail ⊢
    simp [head, tail]

/-! ## Entries -/

/-- What an entry that fails leaves behind: one warning and one failure. -/
def failureTrace (fault : Fault) : Trace where
  notices := [.ruleFailed fault]
  tally := { failures := 1 }

/-- What a rule leaves behind because its scanner does. -/
def Rule.ownTrace (source : String) : Rule → Trace
  | .scanner callee => (scanItems callee source).trace
  | _ => {}

/-- Whether work ends with a fault that can be worded, and so be reported. -/
def isReported {α : Type} : Except Fault α → Bool
  | .ok _ => false
  | .error fault => fault.wording.isOk

theorem isReported_iff {α : Type} {outcome : Except Fault α} :
    isReported outcome = true ↔
      ∃ fault message, outcome = .error fault ∧ fault.wording = .ok message := by
  cases outcome with
  | ok value => simp [isReported]
  | error fault => cases h : fault.wording <;> simp [isReported, h, Except.isOk, Except.toBool]

/-- Whether a rule is reported and contributes nothing. -/
def Rule.fails (source : String) : Rule → Bool
  | .keywords words => isReported (keywordsOf words)
  | .scanner callee => isReported (scanItems callee source).outcome
  | _ => false

theorem isQuiet_dropItem (label : String) (item : Value) (fault : Fault) :
    (dropItem label item fault).trace.IsQuiet := by
  unfold dropItem
  split
  · exact Run.isQuiet_bind ⟨rfl, rfl⟩ fun _ _ => Trace.isQuiet_empty
  · split
    · exact Run.isQuiet_bind ⟨rfl, rfl⟩ fun _ _ => Trace.isQuiet_empty
    · exact Trace.isQuiet_empty

theorem isQuiet_checkItem (length : Nat) (label : String) (item : Value) :
    (checkItem length label item).trace.IsQuiet := by
  unfold checkItem
  split
  · exact Trace.isQuiet_empty
  · split
    · exact Trace.isQuiet_empty
    · exact isQuiet_dropItem label _ _

/-- Items that are dropped are not warned about, and do not count as failures. -/
theorem isQuiet_checkItems (length : Nat) (label : String) (items : List Value) :
    (checkItems length label items).trace.IsQuiet := by
  induction items with
  | nil => exact Trace.isQuiet_empty
  | cons item items ih =>
    refine Run.isQuiet_bind (isQuiet_checkItem length label item) fun span _ => ?_
    exact Run.isQuiet_bind ih fun _ _ => Trace.isQuiet_empty

section Rules

variable {rule : Rule} {source : String}

theorem trace_ruleFailureBy_of_worded {cause : Fault} {message : String}
    (worded : cause.wording = .ok message) (report : String → Fault) :
    (ruleFailureBy cause report).trace = failureTrace (report message) := by
  simp only [ruleFailureBy, worded]
  rfl

theorem trace_ruleFailureBy_of_mute {cause fault : Fault} (mute : cause.wording = .error fault)
    (report : String → Fault) : (ruleFailureBy cause report).trace = {} := by
  simp only [ruleFailureBy, mute]
  rfl

theorem Rule.trace_extract_of_fails (fails : rule.fails source = true) (label : String) :
    ∃ fault, (rule.extract source label).trace = rule.ownTrace source ++ failureTrace fault := by
  cases rule with
  | inert | pattern => cases fails
  | keywords words =>
    obtain ⟨cause, message, refused, worded⟩ := isReported_iff.1 fails
    simp only [Rule.extract, refused, trace_ruleFailureBy_of_worded worded]
    exact ⟨_, (Trace.nil_append _).symm⟩
  | scanner callee =>
    obtain ⟨cause, message, raised, worded⟩ := isReported_iff.1 fails
    rw [Rule.extract, Run.trace_bind_of_ok (Run.outcome_attempt _), raised]
    simp only [trace_ruleFailureBy_of_worded worded]
    exact ⟨_, rfl⟩

theorem Rule.trace_extract_of_works (works : rule.fails source = false) (label : String) :
    ∃ quiet : Trace, quiet.IsQuiet ∧
      (rule.extract source label).trace = rule.ownTrace source ++ quiet := by
  -- a fault that is not reported cannot be worded, and then there is nothing to be warned about
  have mute : ∀ {cause : Fault}, cause.wording.isOk = false → ∀ report,
      (ruleFailureBy cause report).trace = {} := by
    intro cause hwording report
    cases h : cause.wording with
    | ok message => simp [h, Except.isOk, Except.toBool] at hwording
    | error fault => exact trace_ruleFailureBy_of_mute h report
  cases rule with
  | inert | pattern => exact ⟨{}, Trace.isQuiet_empty, rfl⟩
  | keywords words =>
    have own : (Rule.keywords words).ownTrace source = {} := rfl
    refine ⟨{}, Trace.isQuiet_empty, ?_⟩
    rw [Rule.extract, own, Trace.append_nil]
    cases hwords : keywordsOf words with
    | ok texts => rfl
    | error cause =>
      rw [Rule.fails, hwords] at works
      exact mute works _
  | scanner callee =>
    rw [Rule.extract, Run.trace_bind_of_ok (Run.outcome_attempt _)]
    -- the scanner has left its trace, and the check of its items comes after it
    refine ⟨_, ?_, rfl⟩
    cases hitems : (scanItems callee source).outcome with
    | ok items => exact Run.isQuiet_bind (isQuiet_checkItems _ _ _) fun _ _ => Trace.isQuiet_empty
    | error cause =>
      rw [Rule.fails, hitems] at works
      simp only [mute works]
      exact Trace.isQuiet_empty

end Rules

section Reading

variable [PatternReader]

/-- What the scanner that a value stands for leaves behind by itself. -/
def Value.ownTrace (source : String) (value : Value) : Trace :=
  match coerce (.text "") value with
  | .ok rule => rule.ownTrace source
  | .error _ => {}

/-- Whether a value is reported and contributes nothing. -/
def Value.fails (source : String) (value : Value) : Bool :=
  match coerce (.text "") value with
  | .ok rule => rule.fails source
  | .error fault => fault.isMalformed

section Values

variable {value : Value} {source : String}

theorem Value.fails_of_rule {label : Value} {rule : Rule} (eq : coerce label value = .ok rule) :
    rule.fails source = true ↔ value.Fails source := by
  constructor
  · intro fails
    cases rule with
    | inert | pattern => cases fails
    | keywords words =>
      obtain ⟨fault, message, refused, worded⟩ := isReported_iff.1 fails
      exact .keywords eq refused worded
    | scanner callee =>
      obtain ⟨fault, message, raised, worded⟩ := isReported_iff.1 fails
      exact .scanner eq raised worded
  · intro fails
    cases fails with
    | malformed refused => cases (coerce_eq_ok_of_label eq _).symm.trans refused
    | keywords rule' refused worded =>
      obtain rfl := Except.ok.inj ((coerce_eq_ok_of_label eq _).symm.trans rule')
      exact isReported_iff.2 ⟨_, _, refused, worded⟩
    | scanner rule' raised worded =>
      obtain rfl := Except.ok.inj ((coerce_eq_ok_of_label eq _).symm.trans rule')
      exact isReported_iff.2 ⟨_, _, raised, worded⟩

/-- A value that is no rule fails exactly if its fault says that it is none. -/
theorem Value.fails_of_fault {label : String} {fault : Fault}
    (refused : coerce (.text label) value = .error fault) :
    fault.isMalformed = true ↔ value.Fails source := by
  constructor
  · exact .malformed refused
  · intro fails
    cases fails with
    | malformed refused' reported =>
      obtain ⟨other, hother, reported⟩ := exists_malformed_of_coerce refused' reported label
      obtain rfl := Except.error.inj (refused.symm.trans hother)
      exact reported
    | keywords rule => cases refused.symm.trans (coerce_eq_ok_of_label rule _)
    | scanner rule => cases refused.symm.trans (coerce_eq_ok_of_label rule _)

theorem Value.fails_iff : value.fails source = true ↔ value.Fails source := by
  cases h : coerce (.text "") value with
  | ok rule =>
    rw [Value.fails, h]
    exact Value.fails_of_rule h
  | error fault =>
    rw [Value.fails, h]
    exact Value.fails_of_fault h

instance Value.decidableFails (source : String) (value : Value) : Decidable (value.Fails source) :=
  decidable_of_iff (value.fails source = true) Value.fails_iff

theorem Value.ownTrace_of_rule {label : Value} {rule : Rule} (eq : coerce label value = .ok rule) :
    value.ownTrace source = rule.ownTrace source := by
  rw [Value.ownTrace, coerce_eq_ok_of_label eq]

theorem Value.ownTrace_of_fault {label : Value} {fault : Fault}
    (refused : coerce label value = .error fault) : value.ownTrace source = {} := by
  rw [Value.ownTrace]
  split
  next rule hrule => cases refused.symm.trans (coerce_eq_ok_of_label hrule label)
  next => rfl

/-- An entry that fails is reported once and counts as one failure. -/
theorem trace_extract_of_fails (fails : value.Fails source) (type : String) :
    ∃ fault, (extract value source type).trace = value.ownTrace source ++ failureTrace fault := by
  cases h : coerce (.text (entryLabel type)) value with
  | ok rule =>
    rw [extract, h, Value.ownTrace_of_rule h]
    exact Rule.trace_extract_of_fails ((Value.fails_of_rule h).2 fails) _
  | error fault =>
    rw [extract, h, Value.ownTrace_of_fault h]
    simp only [(Value.fails_of_fault h).2 fails, if_true]
    exact ⟨fault, rfl⟩

/-- An entry that does not fail neither warns nor counts, apart from what its scanner does. -/
theorem trace_extract_of_works (works : ¬ value.Fails source) (type : String) :
    ∃ quiet : Trace, quiet.IsQuiet ∧
      (extract value source type).trace = value.ownTrace source ++ quiet := by
  cases h : coerce (.text (entryLabel type)) value with
  | ok rule =>
    have hfails : rule.fails source = false :=
      Bool.eq_false_iff.2 fun fails => works ((Value.fails_of_rule h).1 fails)
    rw [extract, h, Value.ownTrace_of_rule h]
    exact Rule.trace_extract_of_works hfails _
  | error fault =>
    have hfault : fault.isMalformed = false :=
      Bool.eq_false_iff.2 fun reported => works ((Value.fails_of_fault h).1 reported)
    rw [extract, h, Value.ownTrace_of_fault h]
    simp only [hfault]
    exact ⟨{}, Trace.isQuiet_empty, rfl⟩

end Values

/-- What an entry counts and reports, apart from what its scanner leaves behind. -/
inductive EntryCounted (source : String) (entry : String × Value) (found : List Span) : Prop
  /-- The entry fails. It is reported once, counts as one failure and gives nothing. -/
  | failed (fails : entry.2.Fails source) (fault : Fault)
      (trace_eq : (extract entry.2 source entry.1).trace =
        entry.2.ownTrace source ++ failureTrace fault)
      (nothing : found = [])
  /-- The entry does not fail. There is no warning and no failure. -/
  | worked (works : ¬ entry.2.Fails source) (quiet : Trace) (isQuiet : quiet.IsQuiet)
      (trace_eq : (extract entry.2 source entry.1).trace = entry.2.ownTrace source ++ quiet)

section Counted

variable {source : String} {entry : String × Value} {found : List Span}

theorem entryCounted (given : (extract entry.2 source entry.1).outcome = .ok found) :
    EntryCounted source entry found := by
  by_cases fails : entry.2.Fails source
  · obtain ⟨fault, trace_eq⟩ := trace_extract_of_fails fails entry.1
    exact .failed fails fault trace_eq (Except.ok.inj (given.symm.trans (extract_of_fails fails)))
  · obtain ⟨quiet, isQuiet, trace_eq⟩ := trace_extract_of_works fails entry.1
    exact .worked fails quiet isQuiet trace_eq

theorem EntryCounted.tally_eq (counted : EntryCounted source entry found) :
    (extract entry.2 source entry.1).trace.tally =
      (entry.2.ownTrace source).tally.add
        { failures := if entry.2.Fails source then 1 else 0 } := by
  cases counted with
  | failed fails fault trace_eq =>
    rw [trace_eq, if_pos fails]
    rfl
  | worked works quiet isQuiet trace_eq =>
    rw [trace_eq, if_neg works, Trace.tally_append, isQuiet.2]

theorem EntryCounted.length_reports (counted : EntryCounted source entry found) :
    (extract entry.2 source entry.1).trace.reports.length =
      (entry.2.ownTrace source).reports.length + if entry.2.Fails source then 1 else 0 := by
  cases counted with
  | failed fails fault trace_eq =>
    rw [trace_eq, if_pos fails, Trace.reports_append, List.length_append]
    rfl
  | worked works quiet isQuiet trace_eq =>
    rw [trace_eq, if_neg works, Trace.reports_append, isQuiet.reports_eq, List.append_nil,
      Nat.add_zero]

end Counted

/-! ## Passes -/

/-- What the scanners of entries leave behind by themselves. -/
def scannersTrace (source : String) (entries : List (String × Value)) : Trace :=
  Trace.join (entries.map fun entry => entry.2.ownTrace source)

/-- The number of entries that fail. -/
def failing (source : String) (entries : List (String × Value)) : Nat :=
  entries.countP fun entry => decide (entry.2.Fails source)

section Passes

variable {source : String} {entries : List (String × Value)} {spans : List (String × List Span)}

theorem scannersTrace_cons (entry : String × Value) :
    scannersTrace source (entry :: entries) =
      entry.2.ownTrace source ++ scannersTrace source entries :=
  rfl

theorem failing_cons (entry : String × Value) :
    failing source (entry :: entries) =
      failing source entries + if entry.2.Fails source then 1 else 0 := by
  simp [failing, List.countP_cons]

/-- Entries are counted and reported one by one. -/
theorem trace_extractEntries_of_given (given : List.Forall₂ (GivenAlone source) entries spans) :
    (extractEntries source entries).trace.tally = (scannersTrace source entries).tally.add
        { rules := entries.length
          ranges := (spans.flatMap (·.2)).length
          failures := failing source entries } ∧
      (extractEntries source entries).trace.reports.length =
        (scannersTrace source entries).reports.length + failing source entries := by
  induction given with
  | nil => exact ⟨rfl, rfl⟩
  | @cons entry given entries spans head _ ih =>
    obtain ⟨type, value⟩ := entry
    obtain ⟨_, found⟩ := given
    obtain ⟨rfl, hfound⟩ := head
    have counted := entryCounted hfound
    have tally_eq := counted.tally_eq
    have length_reports := counted.length_reports
    -- the entry leaves its trace, then the rule and its spans are counted, then come the others
    rw [extractEntries, Run.trace_bind_of_ok hfound, Run.trace_bind_of_ok (Run.outcome_count _),
      Run.trace_bind_pure, scannersTrace_cons, failing_cons]
    constructor
    · simp only [Trace.tally_append, tally_eq, Run.tally_count, ih.1, Tally.add, Tally.mk.injEq,
        List.length_cons, List.flatMap_cons, List.length_append]
      omega
    · have count : (Run.count { rules := 1, ranges := found.length }).trace.reports = [] := rfl
      simp only [Trace.reports_append, List.length_append, length_reports, ih.2, count,
        List.length_nil]
      omega

end Passes

/-- A profile that is applied to a text. -/
structure Survey where
  profile : Profile
  source : String
  generation : Nat := 0

namespace Survey

/-- The pass of a survey. -/
def run (survey : Survey) : Run Highlights :=
  extractAll survey.profile survey.source survey.generation

/-- What its scanners leave behind by themselves. -/
def own (survey : Survey) : Trace :=
  scannersTrace survey.source survey.profile.entries

/-- The number of its rules that fail. -/
def failing (survey : Survey) : Nat :=
  Highlighter.failing survey.source survey.profile.entries

/-- The pass of a survey gives a result. -/
def Gives (survey : Survey) (result : Highlights) : Prop :=
  survey.run.outcome = .ok result

variable {survey : Survey} {result : Highlights}

/-- A pass counts itself, its text, and its entries. -/
theorem Gives.tally_eq (gives : survey.Gives result) :
    survey.run.trace.tally = survey.own.tally.add
      { passes := 1
        rules := survey.profile.entries.length
        ranges := result.total
        failures := survey.failing
        sourceLength := survey.source.length } := by
  obtain ⟨spans, hspans, rfl⟩ := extractAll_eq_ok gives
  have entries := (trace_extractEntries_of_given (extractEntries_eq_ok_iff.1 hspans)).1
  rw [run, extractAll, Run.trace_bind_of_ok (Run.outcome_count _), Run.trace_bind_pure]
  simp only [Trace.tally_append, Run.tally_count, entries, own, failing, Highlights.total,
    Tally.add, Tally.mk.injEq]
  omega

theorem Gives.length_reports (gives : survey.Gives result) :
    survey.run.trace.reports.length = survey.own.reports.length + survey.failing := by
  obtain ⟨spans, hspans, rfl⟩ := extractAll_eq_ok gives
  have entries := (trace_extractEntries_of_given (extractEntries_eq_ok_iff.1 hspans)).2
  rw [run, extractAll, Run.trace_bind_of_ok (Run.outcome_count _), Run.trace_bind_pure]
  exact entries

theorem Gives.entryCounted (gives : survey.Gives result) (entry : String × Value)
    (mem : entry ∈ survey.profile.entries) :
    EntryCounted survey.source entry (result.get entry.1) :=
  Highlighter.entryCounted (get_extractAll gives entry mem)

/-- What passes leave behind, one after the other. -/
def traceAll (surveys : List Survey) : Trace :=
  Trace.join (surveys.map (·.run.trace))

/-- The part of it that their scanners leave behind by themselves. -/
def ownAll (surveys : List Survey) : Trace :=
  Trace.join (surveys.map own)

/-- Passes are counted and reported one by one. -/
theorem trace_surveys {surveys : List Survey} {results : List Highlights}
    (gives : List.Forall₂ Gives surveys results) :
    (traceAll surveys).tally = (ownAll surveys).tally.add
        { passes := surveys.length
          rules := (surveys.map (·.profile.entries.length)).sum
          ranges := (results.map Highlights.total).sum
          failures := (surveys.map failing).sum
          sourceLength := (surveys.map (·.source.length)).sum } ∧
      (traceAll surveys).reports.length =
        (ownAll surveys).reports.length + (surveys.map failing).sum := by
  induction gives with
  | nil => exact ⟨rfl, rfl⟩
  | @cons survey result surveys results head _ ih =>
    -- scanners leave their traces in between, so that the counts have to be sorted
    have traces : traceAll (survey :: surveys) = survey.run.trace ++ traceAll surveys := rfl
    have owns : ownAll (survey :: surveys) = survey.own ++ ownAll surveys := rfl
    rw [traces, owns]
    simp only [List.map_cons, List.sum_cons, List.length_cons]
    constructor
    · simp only [Trace.tally_append, head.tally_eq, ih.1, Tally.add, Tally.mk.injEq]
      omega
    · simp only [Trace.reports_append, List.length_append, head.length_reports, ih.2]
      omega

theorem outcomes_eq {surveys : List Survey} {results : List Highlights}
    (gives : List.Forall₂ Gives surveys results) :
    (surveys.map run).map (·.outcome) = results.map .ok := by
  induction gives with
  | nil => rfl
  | @cons survey result _ _ head _ ih =>
    have outcome : survey.run.outcome = .ok result := head
    simp only [List.map_cons, outcome, ih]

/-- Scanners that keep the balance keep it together. -/
theorem balanced_ownAll {surveys : List Survey} (balanced : ∀ survey ∈ surveys,
      ∀ entry ∈ survey.profile.entries, (entry.2.ownTrace survey.source).Balanced) :
    (ownAll surveys).Balanced := by
  refine Trace.balanced_join fun trace mem => ?_
  obtain ⟨survey, hsurvey, rfl⟩ := List.mem_map.1 mem
  refine Trace.balanced_join fun trace mem => ?_
  obtain ⟨entry, hentry, rfl⟩ := List.mem_map.1 mem
  exact balanced survey hsurvey entry hentry

end Survey

end Reading

end Highlighter
