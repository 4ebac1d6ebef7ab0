import Mathlib.Algebra.GroupWithZero.Nat
import Highlighter.Highlight
import Highlighter.Proofs.Extraction.Totality

/-!
# Values are the same rules now and later

A value of a mapping is made a rule when the mapping becomes a profile, and what the profile keeps
is made a rule again when spans are extracted. A malformed value is kept as it is and reported each
time. None of this can be seen in a result: an entry gives the same spans, warnings and failures
whether its value is extracted as it is, or by way of a profile that was made on the spot, or by way
of one that a registry has kept.

A registry keeps the profile of a literal mapping under the key that says which mapping it is. So it
is assumed that a key always stands for the same mapping, and shown that no use of the registry
makes it keep anything but the profile of that mapping.

## Main definitions

* `reached` — the entries that are extracted until one ends with a fault
* `EntryByEntry` — a run that gives and reports what the entries give and report alone
* `Registry.Reachable` — a registry that was used with fixed meanings of its keys

## Main results

* `Value.KeptAs.extract_eq` — what a profile keeps gives what the value gives
* `EntryByEntry.of_extractAll` — a profile is extracted entry by entry
* `Registry.Reachable.profile_eq` — what a registry keeps of a literal mapping
* `conversion_never_shows` — results do not depend on when values are made rules
-/

namespace Highlighter

open Highlighter.Host

/-! ## Warnings -/

/-- The notices of a trace that warn. -/
def Trace.warnings (trace : Trace) : List Notice :=
  trace.notices.filter (·.level == .warning)

@[simp]
theorem Trace.warnings_append (a b : Trace) : (a ++ b).warnings = a.warnings ++ b.warnings := by
  simp [warnings, append_eq]

@[simp]
theorem Trace.tally_append (a b : Trace) : (a ++ b).tally = a.tally.add b.tally :=
  rfl

@[simp]
theorem Tally.failures_add (a b : Tally) : (a.add b).failures = a.failures + b.failures :=
  rfl

@[simp]
theorem Run.warnings_count (tally : Tally) : (Run.count tally).trace.warnings = [] :=
  rfl

@[simp]
theorem Run.tally_count (tally : Tally) : (Run.count tally).trace.tally = tally :=
  rfl

/-- Work that neither warns nor counts. -/
def Trace.IsQuiet (trace : Trace) : Prop :=
  trace.warnings = [] ∧ trace.tally = {}

theorem Trace.isQuiet_empty : Trace.IsQuiet {} :=
  ⟨rfl, rfl⟩

theorem Trace.IsQuiet.append {a b : Trace} (ha : a.IsQuiet) (hb : b.IsQuiet) :
    (a ++ b).IsQuiet := by
  constructor
  · simp [ha.1, hb.1]
  · simp [ha.2, hb.2]

/-- Work that consists of two quiet pieces is quiet. -/
theorem Run.isQuiet_bind {α β : Type} {run : Run α} {next : α → Run β} (first : run.trace.IsQuiet)
    (second : ∀ value, run.outcome = .ok value → (next value).trace.IsQuiet) :
    (run >>= next).trace.IsQuiet := by
  cases h : run.outcome with
  | ok value =>
    rw [Run.trace_bind_of_ok h]
    exact first.append (second value h)
  | error fault => rwa [Run.trace_bind_of_error h]

/-! ## What a profile keeps -/

section Reading

variable [PatternReader]

/-- What a profile keeps of a value gives what the value gives, with the same trace. -/
theorem Value.KeptAs.extract_eq {value kept : Value} (h : value.KeptAs kept)
    (source type : String) :
    extract kept source type = extract value source type := by
  cases h with
  | rule rule eq => rw [extract, extract, coerce_toValue, eq]
  | malformed eq reported => rfl

/-- A malformed entry is noted when it is kept, but this is no warning. -/
theorem isQuiet_coerceEntry (label : String) (key value : Value) :
    (Profile.coerceEntry label key value).trace.IsQuiet := by
  unfold Profile.coerceEntry
  split
  · exact Trace.isQuiet_empty
  · split
    · exact Run.isQuiet_bind ⟨rfl, rfl⟩ fun _ _ => Trace.isQuiet_empty
    · exact Trace.isQuiet_empty

theorem isQuiet_coerceEntries (label : String) (entries : List (Value × Value)) :
    (Profile.coerceEntries label entries).trace.IsQuiet := by
  induction entries with
  | nil => exact Trace.isQuiet_empty
  | cons entry entries ih =>
    rw [Profile.coerceEntries]
    refine Run.isQuiet_bind (isQuiet_coerceEntry label entry.1 entry.2) fun kept _ => ?_
    rwa [Run.trace_bind_pure]

/-- Making a profile neither warns nor counts. -/
theorem isQuiet_ofMapping (name : String) (entries : List (Value × Value)) :
    (Profile.ofMapping name entries).trace.IsQuiet :=
  Run.isQuiet_bind (isQuiet_coerceEntries _ _) fun _ _ => Trace.isQuiet_empty

/-- The entries of a profile as a mapping. -/
def Profile.mapping (profile : Profile) : List (Value × Value) :=
  profile.entries.map asMapping

/-- Two entries of one type that cannot be told apart by extraction. -/
def GivesSame (entry kept : String × Value) : Prop :=
  kept.1 = entry.1 ∧ ∀ source type, extract kept.2 source type = extract entry.2 source type

/-- The entries of the profile that a mapping becomes give what those of the mapping give. -/
theorem givesSame_of_ofMapping {name : String} {raw profile : Profile}
    (converts : (Profile.ofMapping name raw.mapping).outcome = .ok profile) :
    List.Forall₂ GivesSame raw.entries profile.entries := by
  obtain ⟨kept, hkept, hprofile⟩ := Run.outcome_bind_eq_ok_iff.1 converts
  have hentries := keptAs_of_coerceEntries hkept
  rw [eq_map_asMapping_of_make hprofile, Profile.mapping, List.forall₂_map_left_iff,
    List.forall₂_map_right_iff] at hentries
  refine hentries.imp fun entry kept ⟨hname, hkeptAs⟩ => ?_
  exact ⟨Value.text.inj hname, hkeptAs.extract_eq⟩

theorem extractEntries_congr {source : String} {entries kept : List (String × Value)}
    (h : List.Forall₂ GivesSame entries kept) :
    extractEntries source kept = extractEntries source entries := by
  induction h with
  | nil => rfl
  | @cons entry kept _ _ hhead _ ih =>
    obtain ⟨htype, hextract⟩ := hhead
    simp only [extractEntries, hextract, htype, ih]

/-! ## Entry by entry -/

/-- The entries that are extracted: all up to the first one that ends with a fault. -/
def reached (source : String) : List (String × Value) → List (String × Value)
  | [] => []
  | entry :: entries =>
    match (extract entry.2 source entry.1).outcome with
    | .ok _ => entry :: reached source entries
    | .error _ => [entry]

/-- A run that gives and reports what the entries give and report alone. It returns exactly if all
of them do. -/
structure EntryByEntry (source : String) (entries : List (String × Value)) (run : Run Highlights) :
    Prop where
  returns_iff : (∃ result, run.outcome = .ok result) ↔
    ∀ entry ∈ entries, ∃ spans, (extract entry.2 source entry.1).outcome = .ok spans
  types_eq : ∀ result, run.outcome = .ok result → result.types = entries.map (·.1)
  get_eq : ∀ result, run.outcome = .ok result → ∀ entry ∈ entries,
    (extract entry.2 source entry.1).outcome = .ok (result.get entry.1)
  reached_eq : ∀ result, run.outcome = .ok result → reached source entries = entries
  warnings_eq : run.trace.warnings =
    (reached source entries).flatMap fun entry => (extract entry.2 source entry.1).trace.warnings
  failures_eq : run.trace.tally.failures =
    ((reached source entries).map fun entry =>
      (extract entry.2 source entry.1).trace.tally.failures).sum

section Entries

variable {source : String} {entries : List (String × Value)}

theorem reached_of_ok {spans : List (String × List Span)}
    (h : (extractEntries source entries).outcome = .ok spans) :
    reached source entries = entries := by
  have hgiven := extractEntries_eq_ok_iff.1 h
  clear h
  induction hgiven with
  | nil => rfl
  | cons hhead _ ih => simp [reached, hhead.2, ih]

/-- Entries warn and fail one by one, up to the first one that ends with a fault. -/
theorem trace_extractEntries (source : String) (entries : List (String × Value)) :
    (extractEntries source entries).trace.warnings = (reached source entries).flatMap
        (fun entry => (extract entry.2 source entry.1).trace.warnings) ∧
      (extractEntries source entries).trace.tally.failures = ((reached source entries).map
        fun entry => (extract entry.2 source entry.1).trace.tally.failures).sum := by
  induction entries with
  | nil => exact ⟨rfl, rfl⟩
  | cons entry entries ih =>
    obtain ⟨type, value⟩ := entry
    rw [extractEntries]
    cases hfound : (extract value source type).outcome with
    | error fault => simp [Run.trace_bind_of_error hfound, reached, hfound]
    | ok found =>
      rw [Run.trace_bind_of_ok hfound, Run.trace_bind_of_ok (Run.outcome_count _),
        Run.trace_bind_pure]
      simp [reached, hfound, ih.1, ih.2]

end Entries

/-- A profile is extracted entry by entry. -/
theorem EntryByEntry.of_extractAll (profile : Profile) (source : String) (generation : Nat) :
    EntryByEntry source profile.entries (extractAll profile source generation) := by
  have htrace : (extractAll profile source generation).trace.warnings =
        (extractEntries source profile.entries).trace.warnings ∧
      (extractAll profile source generation).trace.tally.failures =
        (extractEntries source profile.entries).trace.tally.failures := by
    rw [extractAll, Run.trace_bind_of_ok (Run.outcome_count _), Run.trace_bind_pure]
    simp
  obtain ⟨hwarnings, hfailures⟩ := trace_extractEntries source profile.entries
  refine ⟨?_, fun _ h => types_extractAll h, fun _ h => get_extractAll h, ?_,
    htrace.1.trans hwarnings, htrace.2.trans hfailures⟩
  · rw [exists_extractAll_iff]
    exact forall₂_congr fun entry _ => exists_extract_iff.symm
  · intro result h
    obtain ⟨spans, hspans, -⟩ := extractAll_eq_ok h
    exact reached_of_ok hspans

/-! ## Registries -/

/-- The identifier is no literal mapping, or the one that its key stands for. -/
def Identifier.Means (meaning : String → Table) : Identifier → Prop
  | .literal key entries => entries = meaning key
  | _ => True

namespace Registry

variable {meaning : String → Table} {registry next : Registry}

/-- A registry that was used in any way, but with keys that always stand for the same mappings. -/
inductive Reachable (meaning : String → Table) : Registry → Prop
  | fresh (settings : Settings) : Reachable meaning { settings }
  | ask {registry next : Registry} {identifier : Identifier} {answer : Answer}
      (reachable : Reachable meaning registry) (means : identifier.Means meaning)
      (asked : (registry.ask identifier).outcome = .ok (next, answer)) : Reachable meaning next
  | finish {registry next : Registry} {name location : String} {loaded : Run Value}
      {resolved : Resolved} (reachable : Reachable meaning registry)
      (finished : (registry.finish name location loaded).outcome = .ok (next, resolved)) :
      Reachable meaning next
  | strand {registry : Registry} (reachable : Reachable meaning registry) (name : String)
      (fault : Fault) : Reachable meaning (registry.strand name fault)
  | invalidate {registry : Registry} (reachable : Reachable meaning registry)
      (identifier : Identifier) : Reachable meaning (registry.invalidate identifier)

/-- Everything that is kept of a literal mapping is its profile, if it has one. -/
def KeepsMeaning (meaning : String → Table) (registry : Registry) : Prop :=
  ∀ key resolved, (key, resolved) ∈ registry.literals → ∀ profile,
    (Profile.ofMapping "custom" (meaning key)).outcome = .ok profile → resolved.profile = profile

theorem KeepsMeaning.of_subset (keeps : registry.KeepsMeaning meaning)
    (h : next.literals ⊆ registry.literals) : next.KeepsMeaning meaning :=
  fun key resolved hkept => keeps key resolved (h hkept)

theorem KeepsMeaning.append (keeps : registry.KeepsMeaning meaning) {key : String}
    {resolved : Resolved} (isProfile : ∀ profile,
      (Profile.ofMapping "custom" (meaning key)).outcome = .ok profile → resolved.profile = profile)
    (h : next.literals = registry.literals ++ [(key, resolved)]) : next.KeepsMeaning meaning := by
  intro other kept hkept
  rw [h] at hkept
  rcases List.mem_append.1 hkept with hkept | hkept
  · exact keeps other kept hkept
  · obtain ⟨rfl, rfl⟩ := Prod.mk.inj (List.mem_singleton.1 hkept)
    exact isProfile

theorem KeepsMeaning.askLiteral (keeps : registry.KeepsMeaning meaning) {key : String}
    {resolved : Resolved}
    (asked : (registry.askLiteral key (meaning key)).outcome = .ok (next, resolved)) :
    next.KeepsMeaning meaning := by
  rw [Registry.askLiteral] at asked
  split at asked
  · obtain ⟨rfl, -⟩ := Prod.mk.inj (Except.ok.inj asked)
    exact keeps
  · rw [Run.outcome_bind_of_ok (Run.outcome_attempt _)] at asked
    split at asked
    · next profile converted =>
      obtain ⟨rfl, -⟩ := Prod.mk.inj (Except.ok.inj asked)
      refine keeps.append (fun profile' converted' => ?_) rfl
      exact Except.ok.inj (converted.symm.trans converted')
    · next fault failed =>
      split at asked
      · obtain ⟨rfl, -⟩ := Prod.mk.inj (Except.ok.inj asked)
        refine keeps.append (fun profile' converted' => ?_) rfl
        cases failed.symm.trans converted'
      · cases asked

omit [PatternReader] in
theorem literals_askName {name : String} {answer : Answer}
    (asked : (registry.askName name).outcome = .ok (next, answer)) :
    next.literals = registry.literals := by
  rw [askName] at asked
  split at asked
  · obtain ⟨rfl, -⟩ := Prod.mk.inj (Except.ok.inj asked)
    rfl
  · split at asked
    · obtain ⟨rfl, -⟩ := Prod.mk.inj (Except.ok.inj asked)
      rfl
    · cases asked
    · obtain ⟨rfl, -⟩ := Prod.mk.inj (Except.ok.inj asked)
      rfl

theorem KeepsMeaning.ask (keeps : registry.KeepsMeaning meaning) {identifier : Identifier}
    {answer : Answer} (means : identifier.Means meaning)
    (asked : (registry.ask identifier).outcome = .ok (next, answer)) :
    next.KeepsMeaning meaning := by
  cases identifier with
  | literal key entries =>
    obtain rfl : entries = meaning key := means
    obtain ⟨⟨_, _⟩, askedLiteral, hnext⟩ := Run.outcome_bind_eq_ok_iff.1 asked
    obtain ⟨rfl, -⟩ := Prod.mk.inj (Except.ok.inj hnext)
    exact keeps.askLiteral askedLiteral
  | name name =>
    rw [Registry.ask] at asked
    split at asked
    · obtain ⟨rfl, -⟩ := Prod.mk.inj (Except.ok.inj asked)
      exact keeps
    · exact keeps.of_subset fun _ hkept => literals_askName asked ▸ hkept
  | _ =>
    obtain ⟨rfl, -⟩ := Prod.mk.inj (Except.ok.inj asked)
    exact keeps

theorem literals_finish {name location : String} {loaded : Run Value} {resolved : Resolved}
    (finished : (registry.finish name location loaded).outcome = .ok (next, resolved)) :
    next.literals = registry.literals := by
  rw [finish, Run.outcome_bind_of_ok (Run.outcome_attempt _),
    Run.outcome_bind_of_ok (Run.outcome_note _)] at finished
  split at finished <;>
  · obtain ⟨rfl, -⟩ := Prod.mk.inj (Except.ok.inj finished)
    rfl

omit [PatternReader] in
theorem literals_invalidate_subset (registry : Registry) (identifier : Identifier) :
    (registry.invalidate identifier).literals ⊆ registry.literals := by
  cases identifier with
  | nothing => exact List.nil_subset _
  | literal key entries => exact List.filter_sublist.subset
  | _ => exact List.Subset.refl _

/-- However a registry is used, it keeps nothing of a literal mapping but its profile. -/
theorem Reachable.keepsMeaning (reachable : registry.Reachable meaning) :
    registry.KeepsMeaning meaning := by
  induction reachable with
  | fresh settings => exact fun _ _ hkept => nomatch hkept
  | ask _ means asked keeps => exact keeps.ask means asked
  | finish _ finished keeps => exact keeps.of_subset fun _ hkept => literals_finish finished ▸ hkept
  | strand _ name fault keeps => exact keeps.of_subset (List.Subset.refl _)
  | @invalidate registry _ identifier keeps =>
    exact keeps.of_subset (registry.literals_invalidate_subset identifier)

/-- A literal mapping that can become a profile leads to that profile, whether it is kept already or
not, and quietly. -/
theorem Reachable.askLiteral (reachable : registry.Reachable meaning) {key : String}
    {profile : Profile}
    (converts : (Profile.ofMapping "custom" (meaning key)).outcome = .ok profile) :
    ∃ next resolved, (registry.askLiteral key (meaning key)).outcome = .ok (next, resolved) ∧
      resolved.profile = profile ∧ (registry.askLiteral key (meaning key)).trace.IsQuiet := by
  rw [Registry.askLiteral]
  cases hkept : registry.literals.lookup key with
  | some resolved =>
    obtain ⟨_, _, hliterals, -⟩ := List.lookup_eq_some_iff.1 hkept
    refine ⟨registry, resolved, rfl, ?_, Trace.isQuiet_empty⟩
    exact reachable.keepsMeaning key resolved (by simp [hliterals]) profile converts
  | none =>
    rw [Run.outcome_bind_of_ok (Run.outcome_attempt _), converts]
    refine ⟨_, _, rfl, rfl, ?_⟩
    refine Run.isQuiet_bind (isQuiet_ofMapping "custom" (meaning key)) fun outcome returned => ?_
    obtain rfl : .ok profile = outcome := converts.symm.trans (Except.ok.inj returned)
    exact Trace.isQuiet_empty

end Registry

/-! ## Calls -/

theorem EntryByEntry.bind {source : String} {entries : List (String × Value)} {α : Type}
    {first : Run α} {value : α} {next : α → Run Highlights} (quiet : first.trace.IsQuiet)
    (returned : first.outcome = .ok value) (h : EntryByEntry source entries (next value)) :
    EntryByEntry source entries (first >>= next) := by
  have houtcome := Run.outcome_bind_of_ok returned next
  have htrace := Run.trace_bind_of_ok returned next
  refine ⟨?_, ?_, ?_, ?_, ?_, ?_⟩
  · rw [houtcome]
    exact h.returns_iff
  · rw [houtcome]
    exact h.types_eq
  · rw [houtcome]
    exact h.get_eq
  · rw [houtcome]
    exact h.reached_eq
  · rw [htrace, Trace.warnings_append, quiet.1]
    exact h.warnings_eq
  · rw [htrace, Trace.tally_append, quiet.2, Tally.zero_add]
    exact h.failures_eq

/-- What a profile was made of is extracted entry by entry with it. -/
theorem EntryByEntry.of_ofMapping {name : String} {raw profile : Profile}
    (converts : (Profile.ofMapping name raw.mapping).outcome = .ok profile) (source : String) :
    EntryByEntry source raw.entries (extractAll profile source) := by
  have hsame : extractAll profile source = extractAll raw source := by
    rw [extractAll, extractAll, extractEntries_congr (givesSame_of_ofMapping converts)]
  rw [hsame]
  exact .of_extractAll raw source 0

/-- The registry that a call uses: its own, the shared one, or the one that it makes. -/
def Call.used (call : Call) (shared : Option Registry) : Registry :=
  call.registry.getD (shared.getD { settings := call.settings })

theorem Call.run_eq (call : Call) (loader : Loader) (shared : Option Registry) :
    (call.run loader shared).2 = (do
      let (_, resolved) ← loader.resolve (call.used shared) call.identifier
      extractAll resolved.profile call.text) :=
  rfl

theorem Loader.resolve_literal (loader : Loader) (registry : Registry) (key : String)
    (entries : Table) :
    loader.resolve registry (.literal key entries) = registry.askLiteral key entries := by
  simp only [Loader.resolve, Registry.ask, bind_assoc, pure_bind]
  exact bind_pure _

theorem Registry.Reachable.resolve {meaning : String → Table} {registry next : Registry}
    {identifier : Identifier} {resolved : Resolved} {loader : Loader}
    (reachable : registry.Reachable meaning) (means : identifier.Means meaning)
    (found : (loader.resolve registry identifier).outcome = .ok (next, resolved)) :
    next.Reachable meaning := by
  obtain ⟨⟨middle, answer⟩, asked, answered⟩ := Run.outcome_bind_eq_ok_iff.1 found
  have hmiddle := reachable.ask means asked
  cases answer with
  | ready resolved =>
    obtain ⟨rfl, -⟩ := Prod.mk.inj (Except.ok.inj answered)
    exact hmiddle
  | waits name begins =>
    obtain ⟨location, -, finished⟩ := Run.outcome_bind_eq_ok_iff.1 answered
    exact hmiddle.finish finished

/-- Calls use the registry that they share like everybody else. -/
theorem Call.reachable_run {meaning : String → Table} {call : Call} {shared : Option Registry}
    (shares : call.registry = none) (means : call.identifier.Means meaning)
    (reachable : (call.used shared).Reachable meaning) (loader : Loader) :
    ∃ next, (call.run loader shared).1 = some next ∧ next.Reachable meaning := by
  simp only [Call.run, shares]
  refine ⟨_, rfl, ?_⟩
  have hused : call.used shared = (none : Option Registry).getD
      (shared.getD { settings := call.settings }) := by rw [Call.used, shares]
  rw [← hused]
  cases found : (loader.resolve (call.used shared) call.identifier).outcome with
  | ok resolved => exact reachable.resolve means found
  | error fault => exact reachable

/-- When values are made rules cannot be seen in a result. A value that stands for a rule and the
rule itself stand for the same rule. If the entries of a mapping can become a profile, then to
tokenize a text with the mapping, and to highlight the text with it as it is, gives and reports what
extraction from each value gives and reports, be it that the profile is made now or has been
kept. -/
theorem conversion_never_shows {raw profile : Profile}
    (converts : (Profile.ofMapping "custom" raw.mapping).outcome = .ok profile)
    {meaning : String → Table} {key : String} (means : meaning key = raw.mapping) {call : Call}
    (identifier_eq : call.identifier = .literal key raw.mapping)
    (asItIs : call.normalizes = some false) {shared : Option Registry}
    (reachable : (call.used shared).Reachable meaning) (loader : Loader) :
    (∀ label label' value rule, coerce label value = .ok rule →
      coerce label' rule.toValue = .ok rule) ∧
    (∀ source, EntryByEntry source raw.entries (tokenize source raw.mapping)) ∧
    EntryByEntry call.source raw.entries (call.run loader shared).2 := by
  refine ⟨fun _ label' _ rule _ => coerce_toValue label' rule, ?_, ?_⟩
  · intro source
    exact .bind (isQuiet_ofMapping _ _) converts (.of_ofMapping converts source)
  · have htext : call.text = call.source := by simp [Call.text, asItIs]
    rw [← means] at converts identifier_eq
    obtain ⟨next, resolved, asked, rfl, quiet⟩ := reachable.askLiteral converts
    rw [means] at converts
    rw [Call.run_eq, identifier_eq, Loader.resolve_literal, htext]
    exact .bind quiet asked (.of_ofMapping converts call.source)

end Reading

section Example

attribute [local instance] PatternReader.standard

/-- Values of every kind, a malformed one among them, are tokenized, and then highlighted for the
second time, with the profile that the shared registry has kept since the first. -/
theorem everyKind_conversion_never_shows :
    ∃ (profile : Profile) (call : Call) (shared : Registry),
      (Profile.ofMapping "custom" everyKind.mapping).outcome = .ok profile ∧
      call.source = "a+" ∧ call.identifier = .literal "every" everyKind.mapping ∧
      call.normalizes = some false ∧
      ((call.used none).Reachable fun _ => everyKind.mapping) ∧
      (call.run (.table []) none).1 = some shared ∧
      EntryByEntry "a+" everyKind.entries (tokenize "a+" everyKind.mapping) ∧
      EntryByEntry "a+" everyKind.entries (call.run (.table []) (some shared)).2 ∧
      ∃ result, (call.run (.table []) (some shared)).2.outcome = .ok result := by
  let call : Call :=
    { source := "a+"
      identifier := .literal "every" everyKind.mapping
      normalizes := some false }
  obtain ⟨profile, converts⟩ : ∃ profile,
      (Profile.ofMapping "custom" everyKind.mapping).outcome = .ok profile :=
    ⟨_, rfl⟩
  let meaning : String → Table := fun _ => everyKind.mapping
  have means : meaning "every" = everyKind.mapping := rfl
  have fresh : (call.used none).Reachable meaning := .fresh {}
  have literal : call.identifier.Means meaning := rfl
  obtain ⟨shared, hshared, reachable⟩ := Call.reachable_run rfl literal fresh (.table [])
  have kept : (call.used (some shared)).Reachable meaning := reachable
  obtain ⟨-, htokenize, hhighlight⟩ :=
    conversion_never_shows converts means rfl rfl kept (.table [])
  have returns := (EntryByEntry.of_extractAll everyKind "a+" 0).returns_iff.1
    ⟨_, extractAll_everyKind⟩
  exact ⟨profile, call, shared, converts, rfl, rfl, rfl, fresh, hshared, htokenize "a+", hhighlight,
    hhighlight.returns_iff.2 returns⟩

end Example

end Highlighter
