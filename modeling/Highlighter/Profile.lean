import Highlighter.Rule.Basic

/-!
# Profiles

A profile maps token types to rules, in the order of their declaration. An entry that is no rule
keeps its place and its value, and is reported whenever it is used.

Main definitions: `Profile`, `Profile.make`, `Profile.ofMapping`.
-/

namespace Highlighter

open Highlighter.Text (quoted)

/-- Token types with their values, which are rules where they can be. Types have distinct non-empty
names. -/
structure Profile where
  name : String := ""
  entries : List (String × Value) := []
  distinct : (entries.map (·.1)).Nodup := by decide
  named : ∀ entry ∈ entries, entry.1 ≠ "" := by decide

namespace Profile

/-- The fault of a name that is no non-empty text, or the fault of writing it. -/
def badTypeName (name : Value) : Fault :=
  match name.shown? with
  | .ok shown => .badTypeName shown
  | .error unwritten => unwritten

/-- Entries with checked names; `seen` holds the names so far. -/
def checkEntries (seen : List String) : List (Value × Value) → Except Fault (List (String × Value))
  | [] => .ok []
  | (key, value) :: entries =>
    match key with
    | .text type =>
      if type.isEmpty then .error (badTypeName key)
      else if seen.contains type then .error (.duplicateType type)
      else (checkEntries (type :: seen) entries).map ((type, value) :: ·)
    | key => .error (badTypeName key)

/-- How an entry passes the check. -/
theorem checkEntries_cons_eq_ok {seen : List String} {key value : Value}
    {entries : List (Value × Value)} {checked : List (String × Value)}
    (h : checkEntries seen ((key, value) :: entries) = .ok checked) :
    ∃ type rest, key = .text type ∧ type ≠ "" ∧ type ∉ seen ∧
      checkEntries (type :: seen) entries = .ok rest ∧ checked = (type, value) :: rest := by
  cases key with
  | text type =>
    simp only [checkEntries] at h
    split at h
    next => cases h
    next nonempty =>
      split at h
      next => cases h
      next fresh =>
        cases hrest : checkEntries (type :: seen) entries with
        | error fault =>
          rw [hrest] at h
          cases h
        | ok rest =>
          rw [hrest] at h
          exact ⟨type, rest, rfl, by simpa using nonempty, by simpa using fresh, hrest,
            (Except.ok.inj h).symm⟩
  | _ => cases h

/-- Checked entries have distinct non-empty names, none of which was seen before. -/
theorem checkEntries_eq_ok {seen : List String} {entries : List (Value × Value)}
    {checked : List (String × Value)} (h : checkEntries seen entries = .ok checked) :
    (checked.map (·.1)).Nodup ∧ ∀ entry ∈ checked, entry.1 ≠ "" ∧ entry.1 ∉ seen := by
  induction entries generalizing seen checked with
  | nil =>
    cases h
    simp
  | cons entry entries ih =>
    obtain ⟨type, rest, -, hnamed, hfresh, hrest, rfl⟩ := checkEntries_cons_eq_ok h
    obtain ⟨hnodup, hall⟩ := ih hrest
    have hunused : type ∉ rest.map (·.1) := by
      intro hmem
      obtain ⟨entry, hentry, rfl⟩ := List.mem_map.1 hmem
      exact (hall entry hentry).2 List.mem_cons_self
    refine ⟨List.nodup_cons.2 ⟨hunused, hnodup⟩, ?_⟩
    intro entry hentry
    rcases List.mem_cons.1 hentry with rfl | hentry
    · exact ⟨hnamed, hfresh⟩
    · obtain ⟨hnamed, hunseen⟩ := hall entry hentry
      exact ⟨hnamed, fun hseen => hunseen (List.mem_cons_of_mem _ hseen)⟩

/-- A profile of the given entries as they are. -/
def make (name : String) (entries : List (Value × Value)) : Except Fault Profile :=
  match h : checkEntries [] entries with
  | .ok entries =>
    .ok {
      name
      entries
      distinct := (checkEntries_eq_ok h).1
      named := fun entry hentry => ((checkEntries_eq_ok h).2 entry hentry).1 }
  | .error fault => .error fault

/-- The name of a profile in messages. -/
def labelOf (name : String) : String :=
  if name.isEmpty then "<literal>" else name

section Conversion

variable [PatternReader]

/-- Turns a value into a rule if possible, and leaves a notice if it is none. -/
def coerceEntry (label : String) (key value : Value) : Run Value :=
  match coerce key value with
  | .ok rule => pure rule.toValue
  | .error fault =>
    if fault.isMalformed then do
      .note (.keptMalformed label fault)
      return value
    else .fail fault

/-- Turns values into rules where possible, and leaves a notice for each that is none. -/
def coerceEntries (label : String) : List (Value × Value) → Run (List (Value × Value))
  | [] => pure []
  | (key, value) :: entries => do
    let value ← coerceEntry label key value
    let others ← coerceEntries label entries
    return (key, value) :: others

/-- The profile of a mapping of token types to values. -/
def ofMapping (name : String) (entries : List (Value × Value)) : Run Profile := do
  let entries ← coerceEntries (labelOf name) entries
  .ofExcept (make name entries)

end Conversion

/-- The names of the types. -/
def types (profile : Profile) : List String :=
  profile.entries.map (·.1)

/-- The value of a type. -/
def get? (profile : Profile) (type : String) : Option Value :=
  profile.entries.lookup type

/-- A profile, as it is shown. -/
def shown (profile : Profile) : String :=
  "SyntaxProfile(" ++ quoted (labelOf profile.name) ++ ", " ++
    enclosed "[" "]" (profile.types.map quoted) ++ ")"

end Profile

end Highlighter
