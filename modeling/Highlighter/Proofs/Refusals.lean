import Highlighter.Host.Loader
import Highlighter.Proofs.Coercion
import Highlighter.Proofs.Extraction

/-!
# What a registry refuses

A registry gives a profile for almost everything that it is asked for, and the default profile where
there is no other. A literal mapping that is no profile is replaced by the default one, but only if
its fault is about a wrong value. It is not if a repeat count cannot be represented, or if a value
or a key raises a fault of another kind. A load may end in any way, since whatever the loader does
or gives is turned into a profile. But the load of a name has to know where to load from, and a name
without a location is refused for good.

## Main definitions

* `UnwrittenKey` — the first key of a mapping that names no type cannot be written
* `EntryBreaks` — an entry ends the conversion of a mapping
* `MappingFails` — a mapping ends with a fault where a profile was to be made of it
* `Registry.Refuses` — the identifiers that a registry refuses, with the faults
* `Registry.Asked` — what becomes of a question

## Main results

* `outcome_ofMapping_eq_error_iff` — the mappings whose faults are not about wrong values
* `outcome_askLiteral_eq_error_iff` — the literal mappings that are refused
* `Registry.asked` — a registry refuses exactly what it is said to refuse
* `Host.Loader.outcome_resolve_eq_error_iff` — and so does every loader that answers at once
-/

namespace Highlighter

open Highlighter.Host

/-! ## Keys of a mapping -/

section Keys

/-- The keys of a mapping are distinct non-empty texts that have not been seen, up to one that is no
text. Writing that one ends with a fault. -/
def UnwrittenKey (seen : List String) (entries : Table) (fault : Fault) : Prop :=
  ∃ (before : Table) (names : List String) (key value : Value) (after : Table),
    entries = before ++ (key, value) :: after ∧ before.map Prod.fst = names.map Value.text ∧
      "" ∉ names ∧ names.Nodup ∧ (∀ name ∈ names, name ∉ seen) ∧ (∀ name, key ≠ .text name) ∧
      key.shown? = .error fault

variable {seen : List String} {key value : Value} {entries : Table} {fault : Fault}

theorem not_unwrittenKey_nil : ¬ UnwrittenKey seen [] fault := by
  rintro ⟨before, names, key, value, after, h, -⟩
  simp at h

theorem unwrittenKey_cons_of_ne_text (noText : ∀ name, key ≠ .text name) :
    UnwrittenKey seen ((key, value) :: entries) fault ↔ key.shown? = .error fault := by
  constructor
  · rintro ⟨before, names, key', value', after, h, hnames, -, -, -, -, unwritten⟩
    cases before with
    | nil =>
      obtain ⟨⟨rfl, -⟩, -⟩ : (key = key' ∧ value = value') ∧ entries = after := by simpa using h
      exact unwritten
    | cons entry before =>
      -- the first key would be a text
      obtain ⟨rfl, -⟩ := List.cons.inj h
      cases names with
      | nil => cases hnames
      | cons name names => exact absurd (List.cons.inj hnames).1 (noText name)
  · intro unwritten
    exact ⟨[], [], key, value, entries, rfl, rfl, by simp, by simp, by simp, noText, unwritten⟩

theorem unwrittenKey_cons_text {name : String} :
    UnwrittenKey seen ((.text name, value) :: entries) fault ↔
      name ≠ "" ∧ name ∉ seen ∧ UnwrittenKey (name :: seen) entries fault := by
  constructor
  · rintro ⟨before, names, key, value', after, h, hnames, named, distinct, fresh, noText, unwritten⟩
    cases before with
    | nil =>
      obtain ⟨⟨rfl, -⟩, -⟩ : (.text name = key ∧ value = value') ∧ entries = after := by
        simpa using h
      exact absurd rfl (noText name)
    | cons entry before =>
      obtain ⟨rfl, rfl⟩ := List.cons.inj h
      cases names with
      | nil => cases hnames
      | cons other names =>
        obtain ⟨hname, hrest⟩ := List.cons.inj hnames
        obtain rfl : name = other := Value.text.inj hname
        obtain ⟨nonempty, named⟩ := not_or.1 (mt List.mem_cons.2 named)
        obtain ⟨absent, distinct⟩ := List.nodup_cons.1 distinct
        obtain ⟨unseen, fresh⟩ := List.forall_mem_cons.1 fresh
        refine ⟨Ne.symm nonempty, unseen, before, names, key, value', after, rfl, hrest, named,
          distinct, fun other hother hseen => ?_, noText, unwritten⟩
        rcases List.mem_cons.1 hseen with rfl | hseen
        · exact absent hother
        · exact fresh other hother hseen
  · rintro ⟨hname, unseen, before, names, key, value', after, rfl, hnames, named, distinct, fresh,
      noText, unwritten⟩
    refine ⟨(.text name, value) :: before, name :: names, key, value', after, rfl, by simp [hnames],
      ?_, ?_, ?_, noText, unwritten⟩
    · simp [named, hname.symm]
    · refine List.nodup_cons.2 ⟨fun hmem => ?_, distinct⟩
      exact fresh name hmem List.mem_cons_self
    · refine List.forall_mem_cons.2 ⟨unseen, fun other hother hseen => ?_⟩
      exact fresh other hother (List.mem_cons_of_mem _ hseen)

/-- Only the keys of a mapping matter. -/
theorem unwrittenKey_congr {others : Table} (same : others.map Prod.fst = entries.map Prod.fst) :
    UnwrittenKey seen others fault ↔ UnwrittenKey seen entries fault := by
  induction entries generalizing others seen with
  | nil =>
    obtain rfl := List.map_eq_nil_iff.1 same
    rfl
  | cons entry entries ih =>
    obtain ⟨key, value⟩ := entry
    obtain ⟨⟨key', value'⟩, others, rfl, rfl, rest⟩ := List.map_eq_cons_iff.1 same
    by_cases hkey : ∃ name, key' = .text name
    · obtain ⟨name, rfl⟩ := hkey
      rw [unwrittenKey_cons_text, unwrittenKey_cons_text, ih rest]
    · rw [unwrittenKey_cons_of_ne_text (not_exists.1 hkey),
        unwrittenKey_cons_of_ne_text (not_exists.1 hkey)]

theorem isValueFault_badTypeName {name : Value} {shown : String} (h : name.shown? = .ok shown) :
    (Profile.badTypeName name).isValueFault = true := by
  simp [Profile.badTypeName, h, Fault.isValueFault, Fault.isA, Fault.bases, Fault.kind]

theorem isValueFault_duplicateType (name : String) :
    (Fault.duplicateType name).isValueFault = true := by
  simp [Fault.isValueFault, Fault.isA, Fault.bases, Fault.kind]

/-- The check of keys ends with a fault that is not about a wrong value exactly if it has to write a
key and cannot. -/
theorem checkEntries_eq_error_iff (unforeseen : fault.isValueFault = false) :
    Profile.checkEntries seen entries = .error fault ↔ UnwrittenKey seen entries fault := by
  induction entries generalizing seen with
  | nil => exact iff_of_false (fun h => by cases h) not_unwrittenKey_nil
  | cons entry entries ih =>
    obtain ⟨key, value⟩ := entry
    -- a fault about a wrong value is none of those that are asked for
    have foreseen : ∀ {other : Fault}, other.isValueFault = true → other ≠ fault := by
      rintro other h rfl
      cases unforeseen.symm.trans h
    by_cases hkey : ∃ name, key = .text name
    · obtain ⟨name, rfl⟩ := hkey
      rw [unwrittenKey_cons_text, ← ih, Profile.checkEntries]
      split
      next empty =>
        have shown : (Value.text name).shown? = .ok (Value.text name).shown := rfl
        refine iff_of_false ?_ fun h => h.1 (by simpa using empty)
        exact fun h => foreseen (isValueFault_badTypeName shown) (Except.error.inj h)
      next nonempty =>
        split
        next repeated =>
          refine iff_of_false ?_ fun h => h.2.1 (by simpa using repeated)
          exact fun h => foreseen (isValueFault_duplicateType name) (Except.error.inj h)
        next fresh =>
          have hname : name ≠ "" := by simpa using nonempty
          have unseen : name ∉ seen := by simpa using fresh
          cases Profile.checkEntries (name :: seen) entries <;> simp [hname, unseen, Except.map]
    · have noText := not_exists.1 hkey
      have refused : Profile.checkEntries seen ((key, value) :: entries) =
          .error (Profile.badTypeName key) := by
        rw [Profile.checkEntries]
        exact noText
      rw [unwrittenKey_cons_of_ne_text noText, refused]
      cases hshown : key.shown? with
      | ok shown =>
        refine iff_of_false ?_ fun h => by cases h
        exact fun h => foreseen (isValueFault_badTypeName hshown) (Except.error.inj h)
      | error other => simp [Profile.badTypeName, hshown]

theorem make_eq_error_iff {name : String} (unforeseen : fault.isValueFault = false) :
    Profile.make name entries = .error fault ↔ UnwrittenKey [] entries fault := by
  rw [← checkEntries_eq_error_iff unforeseen, Profile.make]
  split
  next h => simp [h]
  next h => simp [h]

end Keys

section Reading

variable [PatternReader]

/-! ## Mappings that are no profiles -/

/-- An entry ends the conversion of a mapping: its value escapes, or its value is malformed and its
key cannot be written. A fault about an entry that is no rule is only noted, whoever has raised
it. -/
inductive EntryBreaks : Value × Value → Fault → Prop
  | value {key value : Value} {fault : Fault} (escapes : value.Escapes fault)
      (other : fault.isMalformed = false) : EntryBreaks (key, value) fault
  | key {key value : Value} {defect : Defect} {fault : Fault}
      (refused : ∀ label, coerce label value = .error (malformed label defect))
      (unwritten : key.plain? = .error fault) (other : fault.isMalformed = false) :
      EntryBreaks (key, value) fault

/-- A mapping ends with a fault where a profile was to be made of it: at the first entry that
breaks, or afterwards at a key. -/
inductive MappingFails (entries : Table) (fault : Fault) : Prop
  | entry (first : FirstFault EntryBreaks entries fault)
  | key (converted : ∀ entry ∈ entries, ∀ other, ¬ EntryBreaks entry other)
      (unwritten : UnwrittenKey [] entries fault)

section Mappings

variable {entries : Table} {fault : Fault}

theorem coerce_eq_error_iff_entryBreaks {key value : Value} :
    coerce key value = .error fault ∧ fault.isMalformed = false ↔
      EntryBreaks (key, value) fault := by
  constructor
  · rintro ⟨refused, other⟩
    rcases coerce_eq_error_iff.1 refused with escapes | ⟨defect, eq, rfl⟩
    · exact .value escapes other
    · cases hkey : key.plain? with
      | ok text => simp [malformed, hkey] at other
      | error unwritten =>
        simp only [malformed, hkey] at other ⊢
        exact .key eq hkey other
  · rintro (⟨escapes, other⟩ | ⟨refused, unwritten, other⟩)
    · exact ⟨escapes.coerce_eq key, other⟩
    · refine ⟨?_, other⟩
      rw [refused key, malformed, unwritten]

theorem outcome_coerceEntry_eq_error_iff (label : String) (entry : Value × Value) :
    (Profile.coerceEntry label entry.1 entry.2).outcome = .error fault ↔
      EntryBreaks entry fault := by
  rw [← coerce_eq_error_iff_entryBreaks, Profile.coerceEntry]
  cases coerce entry.1 entry.2 with
  | ok rule => exact iff_of_false nofun nofun
  | error other =>
    cases reported : other.isMalformed with
    | true =>
      simp only [reported, if_true]
      refine iff_of_false nofun ?_
      rintro ⟨h, unreported⟩
      obtain rfl := Except.error.inj h
      cases unreported.symm.trans reported
    | false =>
      simp only [reported, Bool.false_eq_true, if_false]
      constructor
      · intro h
        obtain rfl : other = fault := Except.error.inj h
        exact ⟨rfl, reported⟩
      · rintro ⟨h, -⟩
        obtain rfl := Except.error.inj h
        rfl

/-- The conversion of a mapping ends at the first entry that breaks. -/
theorem outcome_coerceEntries_eq_error_iff (label : String) :
    (Profile.coerceEntries label entries).outcome = .error fault ↔
      FirstFault EntryBreaks entries fault := by
  refine outcome_eq_error_iff_firstFault (fun entry => Profile.coerceEntry label entry.1 entry.2)
    (Profile.coerceEntries label) (fun _ => nofun) ?_
    fun entry _ => outcome_coerceEntry_eq_error_iff label entry
  intro entry entries fault
  simp only [Profile.coerceEntries, Run.outcome_bind_eq_error_iff, Run.outcome_pure, reduceCtorEq,
    and_false, exists_false, or_false, exists_and_right]

/-- The conversion of a mapping leaves its keys as they are. -/
theorem keys_of_coerceEntries {label : String} {converted : Table}
    (h : (Profile.coerceEntries label entries).outcome = .ok converted) :
    converted.map Prod.fst = entries.map Prod.fst := by
  induction entries generalizing converted with
  | nil =>
    obtain rfl := Except.ok.inj h
    rfl
  | cons entry entries ih =>
    simp only [Profile.coerceEntries, Run.outcome_bind_eq_ok_iff, Run.outcome_pure] at h
    obtain ⟨value, -, others, hothers, h⟩ := h
    obtain rfl := Except.ok.inj h
    simp [ih hothers]

/-- A mapping ends with a fault that is not about a wrong value exactly if it fails with it. -/
theorem outcome_ofMapping_eq_error_iff (name : String) (unforeseen : fault.isValueFault = false) :
    (Profile.ofMapping name entries).outcome = .error fault ↔ MappingFails entries fault := by
  have first := exists_firstFault_iff EntryBreaks entries
  simp only [← outcome_coerceEntries_eq_error_iff (Profile.labelOf name)] at first
  rw [Profile.ofMapping, Run.outcome_bind_eq_error_iff]
  cases hconverted : (Profile.coerceEntries (Profile.labelOf name) entries).outcome with
  | error other =>
    -- some entry breaks, so the keys are not looked at
    have breaks := first.1 ⟨other, hconverted⟩
    rw [← hconverted, outcome_coerceEntries_eq_error_iff, hconverted]
    simp only [reduceCtorEq, false_and, exists_false, or_false]
    refine ⟨.entry, ?_⟩
    rintro (h | ⟨converted, -⟩)
    · exact h
    · obtain ⟨entry, hentry, fault, hbreaks⟩ := breaks
      exact absurd hbreaks (converted entry hentry fault)
  | ok converted =>
    have sound : ∀ entry ∈ entries, ∀ fault, ¬ EntryBreaks entry fault := by
      intro entry hentry fault hbreaks
      obtain ⟨other, h⟩ := first.2 ⟨entry, hentry, fault, hbreaks⟩
      cases hconverted.symm.trans h
    have hmake : (Run.ofExcept (Profile.make name converted)).outcome = .error fault ↔
        UnwrittenKey [] entries fault := by
      rw [Run.outcome_ofExcept, make_eq_error_iff unforeseen,
        unwrittenKey_congr (keys_of_coerceEntries hconverted)]
    simp only [reduceCtorEq, false_or, Except.ok.injEq, exists_eq_left', hmake]
    refine ⟨.key sound, ?_⟩
    rintro (⟨before, entry, after, rfl, -, hbreaks⟩ | ⟨-, unwritten⟩)
    · exact absurd hbreaks (sound entry (by simp) fault)
    · exact unwritten

/-- A literal mapping is refused iff it is not kept and fails with a fault that is not about a wrong
value. -/
theorem outcome_askLiteral_eq_error_iff (registry : Registry) (key : String) :
    (registry.askLiteral key entries).outcome = .error fault ↔
      registry.literals.lookup key = none ∧ MappingFails entries fault ∧
        fault.isValueFault = false := by
  rw [Registry.askLiteral]
  cases registry.literals.lookup key with
  | some resolved => simp
  | none =>
    have fails : ∀ other, other.isValueFault = false →
        ((Profile.ofMapping "custom" entries).outcome = .error other ↔
          MappingFails entries other) :=
      fun other => outcome_ofMapping_eq_error_iff "custom"
    rw [Run.outcome_bind_of_ok (Run.outcome_attempt _)]
    cases converted : (Profile.ofMapping "custom" entries).outcome with
    | ok profile =>
      refine iff_of_false nofun ?_
      rintro ⟨-, hfails, unforeseen⟩
      cases converted.symm.trans ((fails fault unforeseen).2 hfails)
    | error other =>
      simp only
      split
      next foreseen =>
        -- the default profile stands in
        rw [Run.outcome_bind_of_ok (Run.outcome_note _)]
        refine iff_of_false nofun ?_
        rintro ⟨-, hfails, unforeseen⟩
        obtain rfl := Except.error.inj (converted.symm.trans ((fails fault unforeseen).2 hfails))
        cases foreseen.symm.trans unforeseen
      next unforeseen =>
        have unforeseen : other.isValueFault = false := by simpa using unforeseen
        constructor
        · intro h
          obtain rfl : other = fault := Except.error.inj h
          exact ⟨trivial, (fails other unforeseen).1 converted, unforeseen⟩
        · rintro ⟨-, hfails, hfault⟩
          obtain rfl := Except.error.inj (converted.symm.trans ((fails fault hfault).2 hfails))
          rfl

end Mappings

/-! ## Questions to a registry -/

namespace Registry

/-- The identifiers that a registry refuses, with the faults. -/
inductive Refuses (registry : Registry) : Identifier → Fault → Prop
  /-- A literal mapping that is not kept fails, and not because of a wrong value. -/
  | literal {key : String} {entries : Table} {fault : Fault}
      (unkept : registry.literals.lookup key = none) (fails : MappingFails entries fault)
      (unforeseen : fault.isValueFault = false) : Refuses registry (.literal key entries) fault
  /-- No location can be given for a name that is to be loaded. -/
  | nowhere {name : String} {fault : Fault} (proper : name ∉ defaultAliases)
      (uncached : registry.profiles.lookup name = none)
      (unstranded : ∀ other, registry.inflight.lookup name ≠ some (.stranded other))
      (nowhere : locate registry.settings name = .error fault) : Refuses registry (.name name) fault
  /-- No location could be given for the name before. -/
  | stranded {name : String} {fault : Fault} (proper : name ∉ defaultAliases)
      (uncached : registry.profiles.lookup name = none)
      (stranded : registry.inflight.lookup name = some (.stranded fault)) :
      Refuses registry (.name name) fault

/-- What becomes of a question. -/
inductive Asked (registry : Registry) : Identifier → Except Fault (Registry × Answer) → Prop
  | refused {identifier : Identifier} {fault : Fault}
      (refuses : registry.Refuses identifier fault) :
      Asked registry identifier (.error fault)
  | ready {identifier : Identifier} {next : Registry} {resolved : Resolved}
      (accepts : ∀ fault, ¬ registry.Refuses identifier fault) :
      Asked registry identifier (.ok (next, .ready resolved))
  /-- The load of a name is to be waited for. -/
  | waits {name : String} {next : Registry} {begins : Bool}
      (same : next.settings = registry.settings)
      (proper : name ∉ defaultAliases) (uncached : registry.profiles.lookup name = none)
      (unstranded : ∀ fault, registry.inflight.lookup name ≠ some (.stranded fault)) :
      Asked registry (.name name) (.ok (next, .waits name begins))

variable {registry : Registry}

theorem not_refuses_of_mem {name : String} (standard : name ∈ defaultAliases) (fault : Fault) :
    ¬ registry.Refuses (.name name) fault := by
  rintro (_ | ⟨proper⟩ | ⟨proper⟩) <;> exact proper standard

theorem not_refuses_of_kept {name : String} {resolved : Resolved}
    (kept : registry.profiles.lookup name = some resolved) (fault : Fault) :
    ¬ registry.Refuses (.name name) fault := by
  rintro (_ | ⟨-, uncached⟩ | ⟨-, uncached⟩) <;> cases kept.symm.trans uncached

/-- A name that is to be loaded is refused iff it has no location. -/
theorem refuses_iff_of_unstranded {name : String} {fault : Fault} (proper : name ∉ defaultAliases)
    (uncached : registry.profiles.lookup name = none)
    (unstranded : ∀ fault, registry.inflight.lookup name ≠ some (.stranded fault)) :
    registry.Refuses (.name name) fault ↔ locate registry.settings name = .error fault := by
  constructor
  · rintro (_ | ⟨-, -, -, nowhere⟩ | ⟨-, -, stranded⟩)
    · exact nowhere
    · exact absurd stranded (unstranded fault)
  · exact .nowhere proper uncached unstranded

theorem Refuses.unique {identifier : Identifier} {fault other : Fault}
    (refuses : registry.Refuses identifier fault) (also : registry.Refuses identifier other) :
    fault = other := by
  cases refuses with
  | literal _ fails unforeseen =>
    cases also with
    | literal _ fails' unforeseen' =>
      have failed := (outcome_ofMapping_eq_error_iff "" unforeseen).2 fails
      have failed' := (outcome_ofMapping_eq_error_iff "" unforeseen').2 fails'
      exact Except.error.inj (failed.symm.trans failed')
  | nowhere proper uncached unstranded nowhere =>
    have also := (refuses_iff_of_unstranded proper uncached unstranded).1 also
    exact Except.error.inj (nowhere.symm.trans also)
  | stranded _ _ stranded =>
    cases also with
    | nowhere _ _ unstranded => exact absurd stranded (unstranded _)
    | stranded _ _ stranded' =>
      exact Flight.stranded.inj (Option.some.inj (stranded.symm.trans stranded'))

theorem asked_name {name : String} (proper : name ∉ defaultAliases) :
    registry.Asked (.name name) (registry.askName name).outcome := by
  rw [askName]
  cases kept : registry.profiles.lookup name with
  | some resolved => exact .ready (not_refuses_of_kept kept)
  | none =>
    cases flight : registry.inflight.lookup name with
    | none => exact .waits rfl proper kept (by simp [flight])
    | some flight' =>
      cases flight' with
      | loading => exact .waits rfl proper kept (by simp [flight])
      | stranded fault => exact .refused (.stranded proper kept flight)

/-- A literal mapping is refused at once. -/
theorem Refuses.outcome_ask {key : String} {entries : Table} {fault : Fault}
    (refuses : registry.Refuses (.literal key entries) fault) :
    (registry.ask (.literal key entries)).outcome = .error fault := by
  cases refuses with
  | literal unkept fails unforeseen =>
    have refused := (outcome_askLiteral_eq_error_iff registry key).2 ⟨unkept, fails, unforeseen⟩
    exact Run.outcome_bind_of_error refused _

theorem asked_literal (key : String) (entries : Table) :
    registry.Asked (.literal key entries) (registry.ask (.literal key entries)).outcome := by
  cases converted : (registry.askLiteral key entries).outcome with
  | error fault =>
    obtain ⟨unkept, fails, unforeseen⟩ :=
      (outcome_askLiteral_eq_error_iff registry key).1 converted
    rw [Refuses.outcome_ask (.literal unkept fails unforeseen)]
    exact .refused (.literal unkept fails unforeseen)
  | ok answer =>
    have ready : (registry.ask (.literal key entries)).outcome = .ok (answer.1, .ready answer.2) :=
      Run.outcome_bind_of_ok converted _
    rw [ready]
    refine .ready fun fault refuses => ?_
    cases ready.symm.trans refuses.outcome_ask

/-- A question ends with a fault, with a profile, or with a load to wait for. -/
theorem asked (registry : Registry) (identifier : Identifier) :
    registry.Asked identifier (registry.ask identifier).outcome := by
  cases identifier with
  | name name =>
    rw [ask]
    split
    next standard => exact .ready (not_refuses_of_mem (List.contains_iff_mem.1 standard))
    next proper => exact asked_name fun standard => proper (List.contains_iff_mem.2 standard)
  | literal key entries => exact asked_literal key entries
  | nothing | ready | other =>
    refine .ready ?_
    rintro _ ⟨⟩

/-- Whatever a load has given, it ends in a profile. -/
theorem exists_outcome_finish (registry : Registry) (name location : String) (loaded : Run Value) :
    ∃ answer, (registry.finish name location loaded).outcome = .ok answer := by
  rw [finish, Run.outcome_bind_of_ok (Run.outcome_attempt _),
    Run.outcome_bind_of_ok (Run.outcome_note _)]
  split <;> exact ⟨_, rfl⟩

end Registry

/-- An identifier that is resolved at once leads to a fault iff it is refused. What the loader
answers does not matter. -/
theorem Host.Loader.outcome_resolve_eq_error_iff (loader : Loader) (registry : Registry)
    (identifier : Identifier) (fault : Fault) :
    (loader.resolve registry identifier).outcome = .error fault ↔
      registry.Refuses identifier fault := by
  rw [Loader.resolve]
  have asked := registry.asked identifier
  generalize outcome_eq : (registry.ask identifier).outcome = outcome at asked
  cases asked with
  | @refused _ other refuses =>
    rw [Run.outcome_bind_of_error outcome_eq]
    constructor
    · rintro ⟨⟩
      exact refuses
    · intro also
      rw [refuses.unique also]
  | ready accepts =>
    rw [Run.outcome_bind_of_ok outcome_eq]
    simp [accepts]
  | @waits name next begins same proper uncached unstranded =>
    rw [Run.outcome_bind_of_ok outcome_eq,
      Registry.refuses_iff_of_unstranded proper uncached unstranded, ← same]
    simp only
    rw [Run.outcome_bind_eq_error_iff]
    -- once there is a location, nothing stands in the way of a profile
    refine or_iff_left ?_
    rintro ⟨location, -, failed⟩
    obtain ⟨answer, finished⟩ :=
      next.exists_outcome_finish name location (loader.answer location name)
    cases finished.symm.trans failed

end Reading

end Highlighter
