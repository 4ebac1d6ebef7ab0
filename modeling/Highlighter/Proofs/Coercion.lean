import Highlighter.Rule.Basic

/-!
# What becomes of a profile value

A profile value stands for a rule, or it is malformed and the message about it names the entry, or
it ends the work with another fault. Which of these it is depends on the value and on the reader of
patterns, and not on the entry. In the third case the reader has failed instead of refusing a
pattern, a message would have to show a value that cannot be written, or the value itself has raised
a fault when it was looked at.

## Main definitions

* `Value.AsksFor` — the pattern that a value gives as a text
* `Value.Escapes` — the values that are neither rules nor reported as malformed, with their faults

## Main results

* `coerce_cases` — the three cases, each for all labels at once
* `coerce_eq_ok_of_label` — whether a value is a rule, and which one, does not depend on the label
* `Value.Escapes.coerce_eq` — the third case is the one in which values escape
-/

namespace Highlighter

open Highlighter.Regex (Options)

/-- The options that a mapping gives for its pattern. -/
def Table.options (entries : List (Value × Value)) : Except Fault Options :=
  optionsOfValue ((Table.get? entries "flags").getD (.text ""))

/-- The text and the options of the pattern that a value asks for. -/
inductive Value.AsksFor : Value → String → Options → Prop
  | text (source : String) : AsksFor (.text source) source {}
  | mapping {entries : List (Value × Value)} {source : String} {options : Options}
      (pattern : Table.get? entries "pattern" = some (.text source))
      (flags : Table.options entries = .ok options) : AsksFor (.map entries) source options

/-- The members of a value that is taken for a list of words. -/
inductive Value.Lists : Value → List Value → Prop
  | list (words : List Value) : Lists (.list words) words
  | tuple (words : List Value) : Lists (.tuple words) words
  | set (frozen : Bool) (words : List Value) : Lists (.set frozen words) words

variable [PatternReader]

/-- The values that are neither rules nor reported as malformed, with the faults they end with. -/
inductive Value.Escapes : Value → Fault → Prop
  /-- The reader fails on the pattern without saying that it is none. -/
  | pattern {value : Value} {source : String} {options : Options} {fault : Fault}
      (asks : value.AsksFor source options)
      (fails : PatternReader.read source options = .error fault) (other : fault ≠ .invalidPattern) :
      Escapes value fault
  /-- The options of the pattern fail with a fault that is not about a wrong value. -/
  | flags {entries : List (Value × Value)} {source : String} {fault : Fault}
      (pattern : Table.get? entries "pattern" = some (.text source))
      (fails : Table.options entries = .error fault) (other : fault.isValueFault = false) :
      Escapes (.map entries) fault
  /-- The options of the pattern fail with a fault that cannot be worded. -/
  | muteFlags {entries : List (Value × Value)} {source : String} {fault cause : Fault}
      (pattern : Table.get? entries "pattern" = some (.text source))
      (fails : Table.options entries = .error fault) (wrong : fault.isValueFault = true)
      (mute : fault.wording = .error cause) : Escapes (.map entries) cause
  /-- The first member of the list that is no word cannot be written. -/
  | word {value word : Value} {words : List Value} {fault : Fault} (lists : value.Lists words)
      (first : words.find? (!·.isWord) = some word) (unwritten : word.shown? = .error fault) :
      Escapes value fault
  /-- What is given for the name of a scanner cannot be written. -/
  | scannerName {entries : List (Value × Value)} {name : Value} {fault : Fault}
      (noPattern : Table.get? entries "pattern" = none)
      (named : Table.get? entries "scanner" = some name) (unwritten : name.shown? = .error fault) :
      Escapes (.map entries) fault
  /-- The value raises a fault when it is looked at. -/
  | raised {conduct : Conduct Value} {fault : Fault} (raises : conduct.entry = .error fault) :
      Escapes (.foreign conduct) fault
  /-- The value stands for another one, which escapes. -/
  | standIn {conduct : Conduct Value} {value : Value} {fault : Fault}
      (stands : conduct.entry = .ok (some value)) (escapes : value.Escapes fault) :
      Escapes (.foreign conduct) fault

/-! ## The three cases -/

/-- What can become of a value, each for all labels. -/
inductive Coerced (value : Value) (coercion : Value → Except Fault Rule) : Prop
  | rule (rule : Rule) (eq : ∀ label, coercion label = .ok rule)
  | malformed (defect : Defect) (eq : ∀ label, coercion label = .error (malformed label defect))
  | escaped (fault : Fault) (escapes : value.Escapes fault)
      (eq : ∀ label, coercion label = .error fault)

/-- A message about a value is about a malformed rule, unless it cannot be written. -/
theorem coerced_malformedBy {value subject : Value} (defect : String → Defect)
    (escapes : ∀ fault, subject.shown? = .error fault → value.Escapes fault) :
    Coerced value fun label => .error (malformedBy label subject defect) := by
  cases hshown : subject.shown? with
  | ok shown => exact .malformed (defect shown) fun label => by simp only [malformedBy, hshown]
  | error fault =>
    exact .escaped fault (escapes fault hshown) fun label => by simp only [malformedBy, hshown]

theorem readPattern_of_fails {source : String} {options : Options} {fault : Fault}
    (fails : PatternReader.read source options = .error fault) (other : fault ≠ .invalidPattern)
    (label : Value) : readPattern label source options = .error fault := by
  simp only [readPattern, fails]

theorem coerced_readPattern {value : Value} {source : String} {options : Options}
    (asks : value.AsksFor source options) :
    Coerced value fun label => (readPattern label source options).map .pattern := by
  cases hread : PatternReader.read source options with
  | ok pattern =>
    exact .rule (.pattern pattern) fun label => by simp only [readPattern, hread, Except.map]
  | error fault =>
    by_cases hinvalid : fault = .invalidPattern
    · subst hinvalid
      exact .malformed .invalidPattern fun label => by simp only [readPattern, hread, Except.map]
    · refine .escaped fault (.pattern asks hread hinvalid) fun label => ?_
      simp only [readPattern_of_fails hread hinvalid, Except.map]

theorem coerced_options {entries : List (Value × Value)} {source : String} {fault : Fault}
    (pattern : Table.get? entries "pattern" = some (.text source))
    (fails : Table.options entries = .error fault) :
    Coerced (.map entries) fun label => .error (malformedOptions label fault) := by
  cases hvalue : fault.isValueFault with
  | false =>
    refine .escaped fault (.flags pattern fails hvalue) fun label => ?_
    simp [malformedOptions, hvalue]
  | true =>
    cases hwording : fault.wording with
    | ok text =>
      refine .malformed (.other text) fun label => ?_
      simp [malformedOptions, hvalue, hwording]
    | error cause =>
      refine .escaped cause (.muteFlags pattern fails hvalue hwording) fun label => ?_
      simp [malformedOptions, hvalue, hwording]

theorem coerced_words {value : Value} {words : List Value} (lists : value.Lists words) :
    Coerced value fun label => coerceWords label words := by
  cases hfind : words.find? (!·.isWord) with
  | none => exact .rule (.keywords words) fun label => by simp only [coerceWords, hfind]
  | some word =>
    simp only [coerceWords, hfind]
    exact coerced_malformedBy .keyword fun fault => .word lists hfind

theorem coerced_scannerName {entries : List (Value × Value)} {name : Value}
    (noPattern : Table.get? entries "pattern" = none)
    (named : Table.get? entries "scanner" = some name) :
    Coerced (.map entries) fun label => coerceMapping label entries := by
  have unknown : Coerced (.map entries) fun label => .error (malformedBy label name fun shown =>
      .unknownScanner shown (Signature.builtin.map (·.1))) :=
    coerced_malformedBy _ fun fault => .scannerName noPattern named
  simp only [coerceMapping, noPattern, named]
  cases name with
  | text name =>
    cases hscanner : builtinScanner? name with
    | none => simpa only [hscanner] using unknown
    | some scanner => exact .rule (.scanner scanner) fun label => by simp only [hscanner]
  | _ => exact unknown

theorem coerced_mapping (entries : List (Value × Value)) :
    Coerced (.map entries) fun label => coerceMapping label entries := by
  cases hpattern : Table.get? entries "pattern" with
  | some pattern =>
    cases pattern with
    | text source =>
      cases hflags : Table.options entries with
      | ok options =>
        have hcoerced := coerced_readPattern (.mapping hpattern hflags)
        rw [Table.options] at hflags
        simpa only [coerceMapping, hpattern, hflags] using hcoerced
      | error fault =>
        have hcoerced := coerced_options hpattern hflags
        rw [Table.options] at hflags
        simpa only [coerceMapping, hpattern, hflags] using hcoerced
    | _ => exact .malformed .patternType fun label => by simp only [coerceMapping, hpattern]
  | none =>
    cases hscanner : Table.get? entries "scanner" with
    | some name => exact coerced_scannerName hpattern hscanner
    | none =>
      exact .malformed .shapelessMapping fun label => by
        simp only [coerceMapping, hpattern, hscanner]

/-- A value that stands for another one becomes what that one becomes. -/
theorem Coerced.standIn {conduct : Conduct Value} {value : Value}
    {coercion : Value → Except Fault Rule} (stands : conduct.entry = .ok (some value))
    (coerced : Coerced value coercion) : Coerced (.foreign conduct) coercion := by
  cases coerced with
  | rule rule eq => exact .rule rule eq
  | malformed defect eq => exact .malformed defect eq
  | escaped fault escapes eq => exact .escaped fault (.standIn stands escapes) eq

/-- A value stands for a rule, is malformed, or escapes. -/
theorem coerce_cases (value : Value) : Coerced value fun label => coerce label value := by
  cases value with
  | text source => exact coerced_readPattern (.text source)
  | map entries => exact coerced_mapping entries
  | list words => exact coerced_words (.list words)
  | tuple words => exact coerced_words (.tuple words)
  | set frozen words => exact coerced_words (.set frozen words)
  | bool value =>
    cases value with
    | false => exact .rule .inert fun label => rfl
    | true => exact .malformed _ fun label => rfl
  | patternRule value =>
    cases value with
    | pattern pattern => exact .rule (.pattern pattern) fun label => rfl
    | _ => exact .malformed .bytesPattern fun label => rfl
  | pattern pattern => exact .rule (.pattern pattern) fun label => rfl
  | keywordRule words => exact .rule (.keywords words) fun label => rfl
  | scannerRule scanner => exact .rule (.scanner scanner) fun label => rfl
  | scanner name typeName scan =>
    exact .rule (.scanner (.scanner name typeName scan)) fun label => rfl
  | inertRule => exact .rule .inert fun label => rfl
  | null => exact .rule .inert fun label => rfl
  | foreign conduct =>
    -- a value may stand for another one that stands for a third, and so on
    match conduct with
    | { entry := .ok (some value), .. } => exact (coerce_cases value).standIn rfl
    | { entry := .ok none, .. } => exact .malformed _ fun label => rfl
    | { entry := .error fault, .. } => exact .escaped fault (.raised rfl) fun label => rfl
  | _ => exact .malformed _ fun label => rfl

/-- Which rule a value is does not depend on the label. -/
theorem coerce_eq_ok_of_label {label : Value} {value : Value} {rule : Rule}
    (h : coerce label value = .ok rule) (label' : Value) : coerce label' value = .ok rule := by
  cases coerce_cases value with
  | rule rule' eq =>
    obtain rfl := Except.ok.inj ((eq label).symm.trans h)
    exact eq label'
  | malformed defect eq => cases (eq label).symm.trans h
  | escaped fault _ eq => cases (eq label).symm.trans h

/-! ## Values that escape -/

omit [PatternReader] in
theorem coerceWords_of_unwritten {words : List Value} {word : Value} {fault : Fault}
    (first : words.find? (!·.isWord) = some word) (unwritten : word.shown? = .error fault)
    (label : Value) : coerceWords label words = .error fault := by
  simp only [coerceWords, first, malformedBy, unwritten]

/-- A value that escapes ends coercion with its fault. -/
theorem Value.Escapes.coerce_eq {value : Value} {fault : Fault} (h : value.Escapes fault)
    (label : Value) : coerce label value = .error fault := by
  induction h with
  | pattern asks fails other =>
    have hread := readPattern_of_fails fails other label
    cases asks with
    | text source => simp only [coerce, hread, Except.map]
    | mapping pattern flags =>
      rw [Table.options] at flags
      simp only [coerce, coerceMapping, pattern, flags, hread, Except.map]
  | flags pattern fails other =>
    rw [Table.options] at fails
    simp [coerce, coerceMapping, pattern, fails, malformedOptions, other]
  | muteFlags pattern fails wrong mute =>
    rw [Table.options] at fails
    simp [coerce, coerceMapping, pattern, fails, malformedOptions, wrong, mute]
  | word lists first unwritten =>
    cases lists <;> exact coerceWords_of_unwritten first unwritten label
  | @scannerName entries name fault noPattern named unwritten =>
    simp only [coerce, coerceMapping, noPattern, named]
    cases name with
    | text name => cases unwritten
    | _ => simp only [malformedBy, unwritten]
  | @raised conduct fault raises =>
    obtain ⟨typeName, entry⟩ := conduct
    obtain rfl : entry = .error fault := raises
    rfl
  | @standIn conduct value fault stands escapes ih =>
    obtain ⟨typeName, entry⟩ := conduct
    obtain rfl : entry = .ok (some value) := stands
    exact ih

/-- A value escapes with one fault at most. -/
theorem Value.Escapes.unique {value : Value} {fault other : Fault} (escapes : value.Escapes fault)
    (also : value.Escapes other) : fault = other :=
  Except.error.inj ((escapes.coerce_eq .null).symm.trans (also.coerce_eq .null))

/-- What cannot be coerced is malformed or escapes. -/
theorem coerce_eq_error_iff {label value : Value} {fault : Fault} :
    coerce label value = .error fault ↔ value.Escapes fault ∨
      ∃ defect, (∀ label, coerce label value = .error (malformed label defect)) ∧
        fault = malformed label defect := by
  constructor
  · intro h
    cases coerce_cases value with
    | rule rule eq => cases (eq label).symm.trans h
    | malformed defect eq => exact .inr ⟨defect, eq, Except.error.inj (h.symm.trans (eq label))⟩
    | escaped other escapes eq =>
      obtain rfl := Except.error.inj ((eq label).symm.trans h)
      exact .inl escapes
  · rintro (escapes | ⟨defect, eq, rfl⟩)
    · exact escapes.coerce_eq label
    · exact eq label

end Highlighter
