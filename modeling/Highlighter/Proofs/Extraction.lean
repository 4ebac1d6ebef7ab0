import Mathlib.Data.List.Forall2
import Highlighter.Extraction

/-!
# What extraction returns

If extraction returns at all, its result is for the text and the generation that were given, and it
has the types of the profile in the order of their declaration. The spans of each type are those
that its entry gives alone.

## Main definitions

* `FirstFault` — the fault of the first member of a list that has one

## Main results

* `extractEntries_eq_ok_iff` — entries are extracted one by one
* `source_extractAll`, `generation_extractAll`, `types_extractAll` — what a result is for
* `inhabited_extractAll` — what is found does not depend on the generation
* `extractAll_empty` — the profile without entries always gives a result
-/

namespace Highlighter

section Forall₂

variable {α β : Type} {related : α → β → Prop} {left : List α} {right : List β}

/-- Of two lists that are related place by place, a member of the first has its partner. -/
theorem exists_of_forall₂_left (h : List.Forall₂ related left right) {a : α} (ha : a ∈ left) :
    ∃ b ∈ right, related a b := by
  induction h with
  | nil => cases ha
  | @cons a' b' _ _ hhead _ ih =>
    rcases List.mem_cons.1 ha with rfl | ha
    · exact ⟨b', List.mem_cons_self, hhead⟩
    · obtain ⟨b, hb, hab⟩ := ih ha
      exact ⟨b, List.mem_cons_of_mem _ hb, hab⟩

theorem exists_of_forall₂_right (h : List.Forall₂ related left right) {b : β} (hb : b ∈ right) :
    ∃ a ∈ left, related a b :=
  exists_of_forall₂_left (List.Forall₂.flip h) hb

end Forall₂

/-! ## The first fault of a list -/

/-- A fault is that of the first member of a list that has one. -/
def FirstFault {α : Type} (faulty : α → Fault → Prop) (members : List α) (fault : Fault) : Prop :=
  ∃ before member after, members = before ++ member :: after ∧
    (∀ other ∈ before, ∀ fault, ¬ faulty other fault) ∧ faulty member fault

section FirstFault

variable {α β γ : Type} {faulty : α → Fault → Prop} {member : α} {members : List α} {fault : Fault}

theorem not_firstFault_nil : ¬ FirstFault faulty [] fault := by
  rintro ⟨before, member, after, h, -⟩
  simp at h

theorem firstFault_cons_iff : FirstFault faulty (member :: members) fault ↔
    faulty member fault ∨ (∀ other, ¬ faulty member other) ∧ FirstFault faulty members fault := by
  constructor
  · rintro ⟨before, first, after, h, sound, hfault⟩
    cases before with
    | nil =>
      obtain ⟨rfl, -⟩ := List.cons.inj h
      exact .inl hfault
    | cons other before =>
      obtain ⟨rfl, rfl⟩ := List.cons.inj h
      obtain ⟨hother, hbefore⟩ := List.forall_mem_cons.1 sound
      exact .inr ⟨hother, before, first, after, rfl, hbefore, hfault⟩
  · rintro (hfault | ⟨hmember, before, first, after, rfl, sound, hfault⟩)
    · exact ⟨[], member, members, rfl, by simp, hfault⟩
    · exact ⟨member :: before, first, after, rfl, List.forall_mem_cons.2 ⟨hmember, sound⟩, hfault⟩

/-- There is a first fault if there is any. -/
theorem exists_firstFault_iff (faulty : α → Fault → Prop) (members : List α) :
    (∃ fault, FirstFault faulty members fault) ↔
      ∃ member ∈ members, ∃ fault, faulty member fault := by
  induction members with
  | nil => simp [not_firstFault_nil]
  | cons member members ih =>
    simp only [firstFault_cons_iff, List.mem_cons, exists_eq_or_imp, exists_or, ← ih]
    by_cases h : ∃ fault, faulty member fault
    · exact iff_of_true (.inl h) (.inl h)
    · simp [not_exists.1 h]

/-- Work on a list, one member after the other, ends with the fault of the first member that has
one. -/
theorem outcome_eq_error_iff_firstFault (step : α → Run β) (loop : List α → Run γ)
    (nil : ∀ fault, (loop []).outcome ≠ .error fault)
    (cons : ∀ member members fault, (loop (member :: members)).outcome = .error fault ↔
      (step member).outcome = .error fault ∨
        (∃ value, (step member).outcome = .ok value) ∧ (loop members).outcome = .error fault)
    (faulty_iff : ∀ member fault, (step member).outcome = .error fault ↔ faulty member fault) :
    (loop members).outcome = .error fault ↔ FirstFault faulty members fault := by
  induction members with
  | nil => exact iff_of_false (nil fault) not_firstFault_nil
  | cons member members ih =>
    rw [cons, firstFault_cons_iff, faulty_iff, ih]
    have returns : (∃ value, (step member).outcome = .ok value) ↔
        ∀ other, ¬ faulty member other := by
      simp only [← faulty_iff]
      cases (step member).outcome <;> simp
    rw [returns]

end FirstFault

variable [PatternReader]

section Entries

variable {source : String} {entries : List (String × Value)} {spans : List (String × List Span)}

/-- A type with the spans that its entry gives alone. -/
def GivenAlone (source : String) (entry : String × Value) (given : String × List Span) : Prop :=
  given.1 = entry.1 ∧ (extract entry.2 source entry.1).outcome = .ok given.2

/-- Entries are extracted one by one, and none changes what another one gives. -/
theorem extractEntries_eq_ok_iff :
    (extractEntries source entries).outcome = .ok spans ↔
      List.Forall₂ (GivenAlone source) entries spans := by
  induction entries generalizing spans with
  | nil =>
    rw [List.forall₂_nil_left_iff]
    exact ⟨fun h => (Except.ok.inj h).symm, fun h => h ▸ rfl⟩
  | cons entry entries ih =>
    simp only [extractEntries, Run.outcome_bind_eq_ok_iff, Run.outcome_pure, Run.outcome_count,
      List.forall₂_cons_left_iff]
    constructor
    · rintro ⟨found, hfound, -, -, others, hothers, hspans⟩
      exact ⟨(entry.1, found), others, ⟨rfl, hfound⟩, ih.1 hothers, (Except.ok.inj hspans).symm⟩
    · rintro ⟨⟨type, found⟩, others, ⟨rfl, hfound⟩, hothers, rfl⟩
      exact ⟨found, hfound, (), trivial, others, ih.2 hothers, rfl⟩

theorem types_extractEntries (h : (extractEntries source entries).outcome = .ok spans) :
    spans.map (·.1) = entries.map (·.1) := by
  have hgiven := extractEntries_eq_ok_iff.1 h
  clear h
  induction hgiven with
  | nil => rfl
  | cons hhead _ ih => simp [hhead.1, ih]

end Entries

section Result

variable {profile : Profile} {source : String} {generation : Nat} {result : Highlights}

/-- The parts of a result of extraction. -/
theorem extractAll_eq_ok (h : (extractAll profile source generation).outcome = .ok result) :
    ∃ spans, (extractEntries source profile.entries).outcome = .ok spans ∧
      result = { source, spans, generation } := by
  simp only [extractAll, Run.outcome_bind_eq_ok_iff, Run.outcome_pure, Run.outcome_count] at h
  obtain ⟨-, -, spans, hspans, hresult⟩ := h
  exact ⟨spans, hspans, (Except.ok.inj hresult).symm⟩

/-- Entries that all give spans give a result. -/
theorem extractAll_of_givenAlone {spans : List (String × List Span)}
    (h : List.Forall₂ (GivenAlone source) profile.entries spans) :
    (extractAll profile source generation).outcome = .ok { source, spans, generation } := by
  rw [extractAll, Run.outcome_bind_of_ok (Run.outcome_count _),
    Run.outcome_bind_of_ok (extractEntries_eq_ok_iff.2 h)]
  rfl

theorem source_extractAll (h : (extractAll profile source generation).outcome = .ok result) :
    result.source = source := by
  obtain ⟨spans, -, rfl⟩ := extractAll_eq_ok h
  rfl

theorem generation_extractAll (h : (extractAll profile source generation).outcome = .ok result) :
    result.generation = generation := by
  obtain ⟨spans, -, rfl⟩ := extractAll_eq_ok h
  rfl

/-- A result has the types of the profile, in the order of their declaration. -/
theorem types_extractAll (h : (extractAll profile source generation).outcome = .ok result) :
    result.types = profile.types := by
  obtain ⟨spans, hspans, rfl⟩ := extractAll_eq_ok h
  exact types_extractEntries hspans

theorem nodup_types_extractAll
    (h : (extractAll profile source generation).outcome = .ok result) : result.types.Nodup := by
  rw [types_extractAll h]
  exact profile.distinct

/-- What is found does not depend on the generation. -/
theorem inhabited_extractAll {generation' : Nat} {result' : Highlights}
    (h : (extractAll profile source generation).outcome = .ok result)
    (h' : (extractAll profile source generation').outcome = .ok result') :
    result.inhabited = result'.inhabited := by
  obtain ⟨spans, hspans, rfl⟩ := extractAll_eq_ok h
  obtain ⟨spans', hspans', rfl⟩ := extractAll_eq_ok h'
  obtain rfl := Except.ok.inj (hspans.symm.trans hspans')
  rfl

/-- The profile without entries always gives a result. -/
theorem extractAll_empty (source : String) (generation : Nat) :
    (extractAll {} source generation).outcome = .ok { source, generation } :=
  rfl

end Result

end Highlighter
