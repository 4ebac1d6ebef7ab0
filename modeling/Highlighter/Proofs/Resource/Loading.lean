import Highlighter.Resource.Load
import Highlighter.Resource.Tables

/-!
# How a load fails

A load gives a mapping, or it fails and says that the profile could not be loaded. Most of what can
go wrong on the way is turned into such a failure: a missing or unreadable file, a module that
raises, data that is not of its format, a server that does not reply, a value that is no mapping.
But not everything is. The host of a web address and the kind of a file are looked at before
anything is tried, faults other than those of reading are not caught, and a reader of data gives up
in a way of its own on a whole number with too many digits. What a module exports is looked at when
the module is no longer watched, and a fault that is caught may be one that cannot be worded. A
module may also ask for the end of the program.

All of this holds of every store, whatever it does.

## Main definitions

* `Fault.IsLoadFailure` — the fault says that a profile could not be loaded
* `Reads` — what is read at a location that is no module
* `RunsModule`, `FirstExport` — a location leads to a module, and what is the first that it exports
* `Raises`, `Leaves` — how a load ends without giving a mapping and without failing to load

## Main results

* `ends_load` — a load ends in one of four ways
* `Raises.outcome_load`, `Leaves.outcome_load` — it does end so in these cases
* `load_escapes_iff` — hence a load keeps its promise except in exactly these cases
-/

namespace Highlighter

/-- The fault says that a profile could not be loaded. -/
def Fault.IsLoadFailure (fault : Fault) : Prop :=
  fault.isA "ProfileLoadError" = true

/-- The failures of a load say so. -/
theorem Fault.isLoadFailure_loadFailed (identifier : String) (defect : LoadDefect)
    (location : Option String) : (Fault.loadFailed identifier defect location).IsLoadFailure := by
  simp [IsLoadFailure, isA, bases, kind]

/-! ## Values of data formats -/

namespace Data

open Highlighter.Resource (entriesOf)

variable {α β : Type} {P : α → Prop}

/-- Every value that an action gives has a property. -/
def Scan.Gives (P : α → Prop) (scan : Scan α) : Prop :=
  ∀ text value rest, scan text = .ok (value, rest) → P value

theorem Scan.gives_pure {value : α} (h : P value) : Scan.Gives P (pure value) := by
  rintro text _ rest ⟨⟩
  exact h

theorem Scan.gives_refuse : Scan.Gives P refuse :=
  nofun

theorem Scan.Gives.bind {Q : β → Prop} {scan : Scan β} {next : β → Scan α} (first : scan.Gives Q)
    (second : ∀ value, Q value → (next value).Gives P) : (scan >>= next).Gives P := by
  intro text value rest hrun
  change (scan text >>= fun result => next result.1 result.2) = _ at hrun
  cases hscan : scan text with
  | error refusal =>
    rw [hscan] at hrun
    cases hrun
  | ok result =>
    rw [hscan] at hrun
    exact second result.1 (first _ _ _ hscan) result.2 value rest hrun

/-- What the last action gives does not depend on those before. -/
theorem Scan.gives_bind {scan : Scan β} {next : β → Scan α} (h : ∀ value, (next value).Gives P) :
    (scan >>= next).Gives P :=
  Scan.Gives.bind (fun _ _ _ _ => trivial) fun value (_ : True) => h value

/-- A value that can say whether it is a mapping. -/
def Sure (value : Value) : Prop :=
  ∃ entries, entriesOf value = .ok entries

theorem gives_wholeNumber (negative : Bool) (digits : List Char) :
    Scan.Gives Sure (wholeNumber negative digits) := by
  intro text value rest h
  unfold wholeNumber at h
  split at h
  · cases h
  · obtain ⟨rfl, -⟩ := Prod.mk.inj (Except.ok.inj h)
    exact ⟨none, rfl⟩

theorem gives_toValue (parts : DecimalParts) : Scan.Gives Sure parts.toValue := by
  unfold DecimalParts.toValue
  split
  · exact gives_wholeNumber _ _
  · exact Scan.gives_pure ⟨none, rfl⟩

theorem gives_number (negative : Bool) : Scan.Gives Sure (Json.number negative) := by
  refine Scan.gives_bind fun isInfinite => ?_
  split
  · exact Scan.gives_pure ⟨none, rfl⟩
  · exact Scan.gives_bind fun _ => Scan.gives_bind fun _ => Scan.gives_bind fun _ => gives_toValue _

theorem gives_value (fuel : Nat) : Scan.Gives Sure (Json.value fuel) := by
  cases fuel with
  | zero => exact Scan.gives_refuse
  | succ fuel =>
    rw [Json.value]
    refine Scan.gives_bind fun _ => Scan.gives_bind fun next => ?_
    split
    · exact Scan.gives_bind fun _ => Scan.gives_bind fun _ => Scan.gives_pure ⟨none, rfl⟩
    · refine Scan.gives_bind fun _ => Scan.gives_bind fun _ => Scan.gives_bind fun _ => ?_
      split
      · exact Scan.gives_pure ⟨_, rfl⟩
      · exact Scan.gives_bind fun _ => Scan.gives_pure ⟨_, rfl⟩
    · refine Scan.gives_bind fun _ => Scan.gives_bind fun _ => Scan.gives_bind fun _ => ?_
      split
      · exact Scan.gives_pure ⟨none, rfl⟩
      · exact Scan.gives_bind fun _ => Scan.gives_pure ⟨none, rfl⟩
    · exact Scan.gives_bind fun _ => gives_number true
    · -- a word, or else a number
      iterate 4
        refine Scan.gives_bind fun _ => ?_
        split
        · exact Scan.gives_pure ⟨none, rfl⟩
      exact gives_number false

theorem Scan.Gives.whole {scan : Scan α} (h : scan.Gives P) {text : List Char} {value : α}
    (hwhole : scan.whole text = .ok value) : P value := by
  unfold Scan.whole at hwhole
  split at hwhole
  next hscan =>
    obtain rfl := Except.ok.inj hwhole
    exact h _ _ _ hscan
  · cases hwhole
  · cases hwhole

theorem sure_of_readJson {text : String} {value : Value} (h : Json.read text = .ok value) :
    Sure value := by
  have gives : Json.document.Gives Sure :=
    Scan.gives_bind fun _ => (gives_value _).bind fun _ sure =>
      Scan.gives_bind fun _ => Scan.gives_pure sure
  exact gives.whole h

theorem sure_of_readToml {text : String} {value : Value} (h : Toml.read text = .ok value) :
    Sure value := by
  simp only [Toml.read, Except.map] at h
  split at h
  · cases h
  · obtain rfl := Except.ok.inj h
    exact ⟨_, rfl⟩

end Data

namespace Resource

open Highlighter.Data (Refusal Sure)
open Highlighter.Text (lower)

/-! ## Ways in which a load ends -/

/-- The suffix of a path in lower case, which says how a resource is read. -/
def formatSuffix (path : String) : String :=
  lower (Path.ofText path).suffix

section Ways

variable {ε : Type} (store : Store ε) (location : String)

/-- What is read at a location that leads to no module, with the suffix that says how to read it: a
text, or the fault of getting it. -/
inductive Reads : String → Except Fault String → Prop
  | server {path : String} (remote : isRemote location = true)
      (located : urlPath location = .ok path) (noModule : formatSuffix path ≠ ".py") :
      Reads (formatSuffix path) (remoteText store location)
  | file (nearby : isRemote location = false)
      (found : store.isFile (Path.ofText location) = .ok true)
      (noModule : formatSuffix location ≠ ".py") :
      Reads (formatSuffix location) (fileText store (Path.ofText location))

/-- A location leads to a module, which is run. -/
structure RunsModule : Prop where
  nearby : isRemote location = false
  found : store.isFile (Path.ofText location) = .ok true
  isModule : (Path.ofText location).suffix = ".py"

/-- A text in the data format of a suffix holds a whole number of so many digits that it is not
read. -/
def TooLong (suffix text : String) (digits : Nat) : Prop :=
  suffix = ".json" ∧ Data.Json.read text = .error (.longNumeral digits) ∨
    suffix = ".toml" ∧ Data.Toml.read text = .error (.longNumeral digits)

/-- Whether a module holds nothing under a name: it has no such export, or the export is nothing. -/
def ModuleEnd.isNothing : ModuleEnd ε Value → Bool
  | .result .null => true
  | .fault cause => cause.isA "AttributeError"
  | _ => false

/-- The first export of a module under which it holds anything, or under which it ends otherwise. -/
def FirstExport (exported : String → ModuleEnd ε Value) (held : ModuleEnd ε Value) : Prop :=
  ∃ name, exportNames.find? (fun name => !(exported name).isNothing) = some name ∧
    exported name = held

/-- The faults with which a load ends that it does not turn into failures to load. -/
inductive Raises : Fault → Prop
  /-- The host of a web address is refused. -/
  | host {fault : Fault} (remote : isRemote location = true)
      (refused : urlPath location = .error fault) : Raises fault
  /-- It cannot be told whether there is a file. -/
  | status {fault : Fault} (nearby : isRemote location = false)
      (unknown : store.isFile (Path.ofText location) = .error fault) : Raises fault
  /-- The text cannot be got, and the fault is not one of reading. The character set of a reply may
  not be known. -/
  | text {suffix : String} {fault : Fault} (reads : Reads store location suffix (.error fault))
      (other : isReadingFault fault = false) : Raises fault
  /-- The text cannot be read, and the fault cannot be worded. -/
  | muteText {suffix : String} {cause fault : Fault}
      (reads : Reads store location suffix (.error cause))
      (reading : isReadingFault cause = true) (mute : cause.wording = .error fault) : Raises fault
  /-- A whole number in the data has too many digits. -/
  | numeral {suffix text : String} {digits : Nat} (reads : Reads store location suffix (.ok text))
      (tooLong : TooLong suffix text digits) : Raises (.longNumeral digits Text.maxDigits)
  /-- A module raises a fault that cannot be worded. -/
  | muteModule {cause fault : Fault} (runs : RunsModule store location)
      (raised : store.run (Path.ofText location) = .fault cause)
      (mute : cause.wording = .error fault) : Raises fault
  /-- A module raises a fault when it is asked for an export. -/
  | export {exported : String → ModuleEnd ε Value} {fault : Fault}
      (runs : RunsModule store location)
      (ran : store.run (Path.ofText location) = .result exported)
      (first : FirstExport exported (.fault fault)) : Raises fault
  /-- What a module exports raises a fault when it is asked whether it is a mapping. -/
  | unsure {exported : String → ModuleEnd ε Value} {value : Value} {fault : Fault}
      (runs : RunsModule store location)
      (ran : store.run (Path.ofText location) = .result exported)
      (first : FirstExport exported (.result value)) (unsure : entriesOf value = .error fault) :
      Raises fault

/-- A module asks for the end of the program, while it is run or when it is asked for an export. -/
inductive Leaves : ε → Prop
  | run {status : ε} (runs : RunsModule store location)
      (exits : store.run (Path.ofText location) = .exit status) : Leaves status
  | export {exported : String → ModuleEnd ε Value} {status : ε} (runs : RunsModule store location)
      (ran : store.run (Path.ofText location) = .result exported)
      (first : FirstExport exported (.exit status)) : Leaves status

/-- How a load can end. -/
inductive Ends : Except Fault (Except ε Table) → Prop
  | mapping (table : Table) : Ends (.ok (.ok table))
  | failure {fault : Fault} (failure : fault.IsLoadFailure) : Ends (.error fault)
  | raised {fault : Fault} (raises : Raises store location fault) : Ends (.error fault)
  | left {status : ε} (leaves : Leaves store location status) : Ends (.ok (.error status))

end Ways

section Pieces

variable {fail : LoadDefect → Fault} {suffix text : String}

/-! ## Data -/

theorem requireMapping_cases (own : ∀ defect, (fail defect).IsLoadFailure) {value : Value}
    (sure : Sure value) :
    (∃ table, (requireMapping fail value).outcome = .ok table) ∨
      ∃ fault, (requireMapping fail value).outcome = .error fault ∧ fault.IsLoadFailure := by
  obtain ⟨entries, hentries⟩ := sure
  have asked : (Run.ofExcept (entriesOf value)).outcome = .ok entries := hentries
  rw [requireMapping, Run.outcome_bind_of_ok asked]
  cases entries with
  | some table => exact .inl ⟨table, rfl⟩
  | none => exact .inr ⟨_, rfl, own _⟩

/-- Data of a format is a mapping, or a failure to load, or a whole number in it is too long. -/
theorem readWith_cases (own : ∀ defect, (fail defect).IsLoadFailure) (format : String)
    {read : String → Except Refusal Value} (sure : ∀ value, read text = .ok value → Sure value) :
    (∃ table, (readWith fail format read text).outcome = .ok table) ∨
      (∃ fault, (readWith fail format read text).outcome = .error fault ∧ fault.IsLoadFailure) ∨
      ∃ digits, read text = .error (.longNumeral digits) ∧
        (readWith fail format read text).outcome = .error (.longNumeral digits Text.maxDigits) := by
  rw [readWith]
  cases hread : read text with
  | ok value => exact (requireMapping_cases own (sure value hread)).imp_right .inl
  | error refusal =>
    cases refusal with
    | malformed => exact .inr (.inl ⟨_, rfl, own _⟩)
    | longNumeral digits => exact .inr (.inr ⟨digits, rfl, rfl⟩)

theorem readData_cases (own : ∀ defect, (fail defect).IsLoadFailure) (suffix text : String) :
    (∃ table, (readData fail suffix text).outcome = .ok table) ∨
      (∃ fault, (readData fail suffix text).outcome = .error fault ∧ fault.IsLoadFailure) ∨
      ∃ digits, TooLong suffix text digits ∧
        (readData fail suffix text).outcome = .error (.longNumeral digits Text.maxDigits) := by
  unfold readData
  split
  · have cases := readWith_cases own "json" fun value => @Data.sure_of_readJson text value
    exact cases.imp_right (.imp_right fun ⟨digits, h, h'⟩ => ⟨digits, .inl ⟨rfl, h⟩, h'⟩)
  · have cases := readWith_cases own "toml" fun value => @Data.sure_of_readToml text value
    exact cases.imp_right (.imp_right fun ⟨digits, h, h'⟩ => ⟨digits, .inr ⟨rfl, h⟩, h'⟩)
  · exact .inr (.inl ⟨_, rfl, own _⟩)

/-- Data with a whole number that is too long is refused. -/
theorem outcome_readData_of_tooLong {digits : Nat} (tooLong : TooLong suffix text digits) :
    (readData fail suffix text).outcome = .error (.longNumeral digits Text.maxDigits) := by
  rcases tooLong with ⟨rfl, refused⟩ | ⟨rfl, refused⟩ <;> simp [readData, readWith, refused]

/-! ## Texts -/

theorem outcome_failBy_of_mute {α : Type} {cause fault : Fault}
    (mute : cause.wording = .error fault)
    (failure : String → Fault) : (failBy cause failure : Run α).outcome = .error fault := by
  simp [failBy, mute]

/-- A failure that was caused by a fault is one, or the fault cannot be worded. -/
theorem failBy_cases {α : Type} {failure : String → Fault}
    (own : ∀ text, (failure text).IsLoadFailure)
    (cause : Fault) :
    ∃ fault, (failBy cause failure : Run α).outcome = .error fault ∧
      (fault.IsLoadFailure ∨ cause.wording = .error fault) := by
  unfold failBy
  split
  · exact ⟨_, rfl, .inl (own _)⟩
  next h => exact ⟨_, rfl, .inr h⟩

end Pieces

section Loads

variable {ε : Type} {store : Store ε} {location identifier : String}

theorem Ends.of_requireMapping {fail : LoadDefect → Fault}
    (own : ∀ defect, (fail defect).IsLoadFailure)
    {value : Value}
    (raises : ∀ fault, entriesOf value = .error fault → Raises store location fault) :
    Ends store location
      (do return .ok (← requireMapping fail value) : Run (Except ε Table)).outcome := by
  cases hentries : entriesOf value with
  | ok entries =>
    rcases requireMapping_cases own ⟨entries, hentries⟩ with ⟨table, h⟩ | ⟨fault, h, failure⟩
    · rw [Run.outcome_bind_of_ok h]
      exact .mapping table
    · rw [Run.outcome_bind_of_error h]
      exact .failure failure
  | error fault =>
    have asked : (Run.ofExcept (entriesOf value)).outcome = .error fault := hentries
    rw [requireMapping, bind_assoc, Run.outcome_bind_of_error asked]
    exact .raised (raises fault hentries)

/-- What is read at a location becomes a mapping, a failure to load, or a fault that is raised. -/
theorem Reads.ends {suffix : String} {read : Except Fault String}
    (reads : Reads store location suffix read) {fail : LoadDefect → Fault}
    {failure : String → Fault} (own : ∀ defect, (fail defect).IsLoadFailure)
    (ownText : ∀ text, (failure text).IsLoadFailure) :
    Ends store location (do
      let text ← readOrFail failure read
      return .ok (← readData fail suffix text) : Run (Except ε Table)).outcome := by
  cases read with
  | error cause =>
    cases reading : isReadingFault cause with
    | false =>
      have raised : (readOrFail failure (.error cause)).outcome = .error cause := by
        simp [readOrFail, reading]
      rw [Run.outcome_bind_of_error raised]
      exact .raised (.text reads reading)
    | true =>
      -- the fault is caught, and what is left of it is a failure if it can be worded
      obtain ⟨fault, hfault, kind⟩ := @failBy_cases String _ ownText cause
      have failed : (readOrFail failure (.error cause)).outcome = .error fault := by
        simpa [readOrFail, reading] using hfault
      rw [Run.outcome_bind_of_error failed]
      rcases kind with failure | mute
      · exact .failure failure
      · exact .raised (.muteText reads reading mute)
  | ok text =>
    rw [Run.outcome_bind_of_ok rfl]
    rcases readData_cases own suffix text with ⟨table, h⟩ | ⟨fault, h, failure⟩ | ⟨digits, long, h⟩
    · rw [Run.outcome_bind_of_ok h]
      exact .mapping table
    · rw [Run.outcome_bind_of_error h]
      exact .failure failure
    · rw [Run.outcome_bind_of_error h]
      exact .raised (.numeral reads long)

/-! ## Modules -/

/-- The exports are tried up to the first one that is not nothing. -/
theorem readExports_eq (fail : LoadDefect → Fault) (exported : String → ModuleEnd ε Value)
    (names : List String) :
    readExports fail exported names =
      match (names.find? fun name => !(exported name).isNothing).map exported with
      | none => .fail (fail .noExport)
      | some (.result value) => do return .ok (← requireMapping fail value)
      | some (.fault fault) => .fail fault
      | some (.exit status) => return .error status := by
  induction names with
  | nil => rfl
  | cons name names ih =>
    rw [readExports, List.find?_cons]
    cases held : exported name with
    | result value =>
      cases value with
      | null =>
        -- nothing is passed over, as is a missing export below
        simpa [ModuleEnd.isNothing] using ih
      | _ => simp [ModuleEnd.isNothing, held]
    | fault fault =>
      cases missing : fault.isA "AttributeError" with
      | true => simpa [ModuleEnd.isNothing, missing] using ih
      | false => simp [ModuleEnd.isNothing, missing, held]
    | exit status => simp [ModuleEnd.isNothing, held]

/-- What a module gives is a mapping, a failure to load, a fault that is raised, or the end. -/
theorem RunsModule.ends (runs : RunsModule store location) {fail : LoadDefect → Fault}
    (own : ∀ defect, (fail defect).IsLoadFailure) :
    Ends store location (readModule store fail (Path.ofText location)).outcome := by
  rw [readModule]
  split
  next exported ran =>
    rw [readExports_eq]
    cases first : exportNames.find? fun name => !(exported name).isNothing with
    | none => exact .failure (own _)
    | some name =>
      simp only [Option.map_some]
      cases held : exported name with
      | result value =>
        exact .of_requireMapping own fun fault => .unsure runs ran ⟨name, first, held⟩
      | fault fault => exact .raised (.export runs ran ⟨name, first, held⟩)
      | exit status => exact .left (.export runs ran ⟨name, first, held⟩)
  next cause raised =>
    obtain ⟨fault, hfault, kind⟩ := @failBy_cases (Except ε Table)
      (fun message => fail (.moduleRaised cause.kind message)) (fun _ => own _) cause
    rw [hfault]
    rcases kind with failure | mute
    · exact .failure failure
    · exact .raised (.muteModule runs raised mute)
  next status exits => exact .left (.run runs exits)

/-! ## Loads -/

theorem lower_py : lower ".py" = ".py" := by
  decide +kernel

theorem ends_loadFile (nearby : isRemote location = false) (identifier : String) :
    Ends store location (loadFile store location identifier).outcome := by
  rw [loadFile]
  cases found : store.isFile (Path.ofText location) with
  | error fault => exact .raised (.status nearby found)
  | ok isFile =>
    rw [Run.outcome_bind_of_ok (Run.outcome_ofExcept _)]
    cases isFile with
    | false => exact .failure (Fault.isLoadFailure_loadFailed _ _ _)
    | true =>
      simp only [Bool.not_true, Bool.false_eq_true, if_false]
      split
      next isModule =>
        -- the suffix of a module counts only if it is in lower case as it stands
        split
        · exact .failure (Fault.isLoadFailure_loadFailed _ _ _)
        next lowered =>
          have isModule := beq_iff_eq.1 isModule
          have same : (Path.ofText location).suffix = ".py" := by
            rw [isModule] at lowered
            simpa using lowered
          exact RunsModule.ends ⟨nearby, found, same⟩ fun _ => Fault.isLoadFailure_loadFailed _ _ _
      next noModule =>
        have noModule : formatSuffix location ≠ ".py" := fun h => noModule (beq_iff_eq.2 h)
        have reads := Reads.file nearby found noModule
        exact reads.ends (fun _ => Fault.isLoadFailure_loadFailed _ _ _)
          fun _ => Fault.isLoadFailure_loadFailed _ _ _

theorem ends_loadRemote (remote : isRemote location = true) (identifier : String) :
    Ends store location (loadRemote store location identifier).outcome := by
  rw [loadRemote]
  cases located : urlPath location with
  | error fault => exact .raised (.host remote located)
  | ok path =>
    rw [Run.outcome_bind_of_ok (Run.outcome_ofExcept _)]
    simp only
    split
    · exact .failure (Fault.isLoadFailure_loadFailed _ _ _)
    next noModule =>
      have noModule : formatSuffix path ≠ ".py" := fun h => noModule (beq_iff_eq.2 h)
      rw [Run.outcome_bind_of_ok (Run.outcome_note _)]
      have reads : Reads store location _ _ := .server remote located noModule
      exact reads.ends (fun _ => Fault.isLoadFailure_loadFailed _ _ _)
        fun _ => Fault.isLoadFailure_loadFailed _ _ _

/-- A load is one from a web address or one from a file, for a name of its own. -/
theorem exists_load_eq (store : Store ε) (location : String) (identifier : Option String) :
    ∃ name, load store location identifier =
      if isRemote location then loadRemote store location name else loadFile store location name :=
  ⟨_, rfl⟩

/-- A load gives a mapping, fails to load, raises a fault, or leaves. -/
theorem ends_load (store : Store ε) (location : String) (identifier : Option String) :
    Ends store location (load store location identifier).outcome := by
  obtain ⟨name, eq⟩ := exists_load_eq store location identifier
  rw [eq]
  split
  next remote => exact ends_loadRemote remote name
  next nearby => exact ends_loadFile (Bool.eq_false_iff.2 nearby) name

/-- What is read is taken for data, whoever asks for it. -/
theorem Reads.exists_outcome {suffix : String} {read : Except Fault String}
    (reads : Reads store location suffix read) (identifier : Option String) :
    ∃ (fail : LoadDefect → Fault) (failure : String → Fault),
      (load store location identifier).outcome = (do
        let text ← readOrFail failure read
        return .ok (← readData fail suffix text) : Run (Except ε Table)).outcome := by
  obtain ⟨name, eq⟩ := exists_load_eq store location identifier
  rw [eq]
  cases reads with
  | server remote located noModule =>
    have asked : (Run.ofExcept (urlPath location)).outcome = .ok _ := located
    simp only [formatSuffix] at noModule ⊢
    rw [if_pos remote, loadRemote, Run.outcome_bind_of_ok asked]
    simp only [beq_iff_eq, if_neg noModule, Run.outcome_bind_of_ok (Run.outcome_note _)]
    exact ⟨_, _, rfl⟩
  | file nearby found noModule =>
    have asked : (Run.ofExcept (store.isFile (Path.ofText location))).outcome = .ok true := found
    simp only [formatSuffix] at noModule ⊢
    rw [nearby, if_neg Bool.false_ne_true, loadFile, Run.outcome_bind_of_ok asked]
    simp only [Bool.not_true, Bool.false_eq_true, if_false, beq_iff_eq, if_neg noModule]
    exact ⟨_, _, rfl⟩

/-- A module is run, whoever asks for it. -/
theorem RunsModule.exists_outcome (runs : RunsModule store location) (identifier : Option String) :
    ∃ fail, (load store location identifier).outcome =
      (readModule store fail (Path.ofText location)).outcome := by
  obtain ⟨name, eq⟩ := exists_load_eq store location identifier
  have asked : (Run.ofExcept (store.isFile (Path.ofText location))).outcome = .ok true := runs.found
  rw [eq, runs.nearby, if_neg Bool.false_ne_true, loadFile, Run.outcome_bind_of_ok asked]
  simp only [runs.isModule, lower_py]
  exact ⟨_, rfl⟩

theorem RunsModule.outcome_of_first (runs : RunsModule store location)
    {exported : String → ModuleEnd ε Value} {held : ModuleEnd ε Value}
    (ran : store.run (Path.ofText location) = .result exported)
    (first : FirstExport exported held) (identifier : Option String) :
    ∃ fail, (load store location identifier).outcome = (match held with
      | .result value => do return .ok (← requireMapping fail value)
      | .fault fault => .fail fault
      | .exit status => return .error status : Run (Except ε Table)).outcome := by
  obtain ⟨fail, h⟩ := runs.exists_outcome identifier
  obtain ⟨name, first, rfl⟩ := first
  refine ⟨fail, h.trans ?_⟩
  rw [readModule, ran]
  simp only [readExports_eq, first, Option.map_some]
  cases exported name <;> rfl

theorem Raises.outcome_load {fault : Fault} (raises : Raises store location fault)
    (identifier : Option String) : (load store location identifier).outcome = .error fault := by
  cases raises with
  | host remote refused =>
    obtain ⟨name, eq⟩ := exists_load_eq store location identifier
    rw [eq, if_pos remote, loadRemote]
    exact Run.outcome_bind_of_error refused _
  | status nearby unknown =>
    obtain ⟨name, eq⟩ := exists_load_eq store location identifier
    rw [eq, nearby, if_neg Bool.false_ne_true, loadFile]
    exact Run.outcome_bind_of_error unknown _
  | text reads other =>
    obtain ⟨fail, failure, h⟩ := reads.exists_outcome identifier
    refine h.trans (Run.outcome_bind_of_error ?_ _)
    simp [readOrFail, other]
  | muteText reads reading mute =>
    obtain ⟨fail, failure, h⟩ := reads.exists_outcome identifier
    refine h.trans (Run.outcome_bind_of_error ?_ _)
    simpa [readOrFail, reading] using outcome_failBy_of_mute mute failure
  | numeral reads tooLong =>
    obtain ⟨fail, failure, h⟩ := reads.exists_outcome identifier
    rw [h, Run.outcome_bind_of_ok rfl]
    exact Run.outcome_bind_of_error (outcome_readData_of_tooLong tooLong) _
  | muteModule runs raised mute =>
    obtain ⟨fail, h⟩ := runs.exists_outcome identifier
    rw [h, readModule, raised]
    exact outcome_failBy_of_mute mute _
  | «export» runs ran first =>
    obtain ⟨fail, h⟩ := runs.outcome_of_first ran first identifier
    exact h
  | unsure runs ran first unsure =>
    obtain ⟨fail, h⟩ := runs.outcome_of_first ran first identifier
    refine h.trans (Run.outcome_bind_of_error ?_ _)
    exact Run.outcome_bind_of_error unsure _

theorem Leaves.outcome_load {status : ε} (leaves : Leaves store location status)
    (identifier : Option String) :
    (load store location identifier).outcome = .ok (.error status) := by
  cases leaves with
  | run runs exits =>
    obtain ⟨fail, h⟩ := runs.exists_outcome identifier
    rw [h, readModule, exits]
    rfl
  | «export» runs ran first =>
    obtain ⟨fail, h⟩ := runs.outcome_of_first ran first identifier
    exact h

end Loads

/-- A load ends with a fault that is no failure to load exactly if it raises one, and it leaves
exactly if a module asks for that. In all other cases it gives a mapping or fails to load. -/
theorem load_escapes_iff {ε : Type} (store : Store ε) (location : String)
    (identifier : Option String) :
    (∀ fault, (load store location identifier).outcome = .error fault ∧ ¬ fault.IsLoadFailure ↔
      Raises store location fault ∧ ¬ fault.IsLoadFailure) ∧
    (∀ status, (load store location identifier).outcome = .ok (.error status) ↔
      Leaves store location status) ∧
    ((∃ table, (load store location identifier).outcome = .ok (.ok table)) ∨
        (∃ fault, (load store location identifier).outcome = .error fault ∧ fault.IsLoadFailure) ↔
      (∀ fault, Raises store location fault → fault.IsLoadFailure) ∧
        ∀ status, ¬ Leaves store location status) := by
  -- a load ends in one way only, so whatever it raises or asks for excludes all other ends
  have ends := ends_load store location identifier
  generalize outcome_eq : (load store location identifier).outcome = outcome at ends
  have raises : ∀ fault, Raises store location fault → outcome = .error fault := fun fault h =>
    outcome_eq.symm.trans (h.outcome_load identifier)
  have leaves : ∀ status, Leaves store location status → outcome = .ok (.error status) :=
    fun status h => outcome_eq.symm.trans (h.outcome_load identifier)
  refine ⟨fun fault => ⟨?_, fun ⟨h, other⟩ => ⟨raises fault h, other⟩⟩,
    fun status => ⟨?_, leaves status⟩, ?_, ?_⟩
  · rintro ⟨rfl, other⟩
    cases ends with
    | failure failure => exact absurd failure other
    | raised h => exact ⟨h, other⟩
  · rintro rfl
    cases ends with
    | left h => exact h
  · rintro (⟨table, rfl⟩ | ⟨fault, rfl, failure⟩)
    · exact ⟨fun fault h => (nomatch raises fault h), fun status h => nomatch leaves status h⟩
    · refine ⟨fun other h => ?_, fun status h => nomatch leaves status h⟩
      obtain rfl := Except.error.inj (raises other h)
      exact failure
  · rintro ⟨contained, stays⟩
    cases ends with
    | mapping table => exact .inl ⟨table, rfl⟩
    | failure failure => exact .inr ⟨_, rfl, failure⟩
    | raised h => exact .inr ⟨_, rfl, contained _ h⟩
    | left h => exact absurd h (stays _)

/-- A server whose reply is declared to be in a character set that nobody knows. -/
def obscureServer : Tables where
  remote := [("https://cdn.example/syntax.demo.json",
    .body "\x7b\x7d".toUTF8 (some "application/json; charset=nosuch"))]

/-- Neither an unknown character set nor a broken host is reported as a failure to load. -/
theorem load_escapes_from_obscure_server :
    ((load obscureServer.store "https://cdn.example/syntax.demo.json" (some "demo")).outcome =
        .error (.unknownEncoding "nosuch") ∧ ¬ (Fault.unknownEncoding "nosuch").IsLoadFailure) ∧
      (load obscureServer.store "https://[bad/x.json" none).outcome = .error (.badHost .brackets) ∧
        ¬ (Fault.badHost .brackets).IsLoadFailure := by
  have charset : Raises obscureServer.store "https://cdn.example/syntax.demo.json"
      (.unknownEncoding "nosuch") :=
    .text (.server (by decide +kernel) rfl (by decide +kernel)) rfl
  have host : Raises obscureServer.store "https://[bad/x.json" (.badHost .brackets) :=
    .host (by decide +kernel) rfl
  refine ⟨⟨charset.outcome_load _, ?_⟩, host.outcome_load _, ?_⟩ <;>
    simp [Fault.IsLoadFailure, Fault.isA, Fault.bases, Fault.kind]

end Resource

end Highlighter
