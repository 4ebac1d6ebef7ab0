import Highlighter.Proofs.Extraction.Ranges

/-!
# When extraction returns

A rule that is malformed, keywords that cannot be matched and a scanner that raises are reported,
and they contribute nothing. This file says exactly when extraction ends with a fault instead: the
value escapes when it is made a rule, the fault that should be reported cannot be worded, or an item
that a scanner has returned raises a fault that is not about a wrong type or a wrong value. A whole
profile ends with the fault of its first entry that does so, and otherwise gives a result.

The items of a scanner are looked at after the call, when its faults are no longer reported. A
built-in scanner returns spans and its faults can be worded, so none of this can happen to it, nor
to a list of words that was checked.

## Main definitions

* `Value.Breaks` — an item ends the check of what a scanner has returned
* `Value.Holds` — the rule that a value is or holds
* `Rule.Interrupts`, `Value.Interrupts` — the rules and values that end extraction with a fault
* `Value.Fails` — the values that are reported and contribute nothing

## Main results

* `checkItems_eq_error_iff` — the first item that breaks ends the check
* `extract_eq_error_iff` — extraction ends with a fault exactly if the value interrupts it
* `extractAll_eq_error_iff` — a profile ends with the fault of its first entry that interrupts it
* `get_extractAll` — otherwise each type has the spans that its entry gives alone
-/

namespace Highlighter

/-! ## Items of a scanner -/

/-- Whether a fault of an item has no other effect than that the item is dropped. -/
def Fault.isDropped (fault : Fault) : Bool :=
  fault.isOutOfText || fault.isNoRange

/-- An item ends the check of the items with a fault: when it is unpacked, or when a member of a
pair is read as a number. -/
inductive Value.Breaks : Value → Fault → Prop
  | unpacking {item : Value} {fault : Fault} (raises : item.items = .error fault)
      (severe : fault.isDropped = false) : Breaks item fault
  | start {item first second : Value} {fault : Fault} (unpacks : item.items = .ok [first, second])
      (raises : first.toOffset = .error fault) (severe : fault.isDropped = false) :
      Breaks item fault
  | stop {item first second : Value} {start : Int} {fault : Fault}
      (unpacks : item.items = .ok [first, second]) (begins : first.toOffset = .ok start)
      (raises : second.toOffset = .error fault) (severe : fault.isDropped = false) :
      Breaks item fault

section Items

variable {length : Nat} {label : String} {fault : Fault} {item : Value} {items : List Value}

theorem isDropped_noPair : Fault.noPair.isDropped = true := by
  decide +kernel

theorem isDropped_notIterable (typeName : String) :
    (Fault.notIterable typeName).isDropped = true := by
  simp [Fault.isDropped, Fault.isNoRange, Fault.isA, Fault.bases, Fault.kind]

theorem isDropped_outOfText (start stop : Int) (length : Nat) :
    (Fault.outOfText start stop length).isDropped = true := by
  simp [Fault.isDropped, Fault.isOutOfText, Fault.isA, Fault.bases, Fault.kind]

theorem Span.within?_eq_error {start stop : Int}
    (h : Span.within? length start stop = .error fault) :
    fault = .outOfText start stop length := by
  unfold Span.within? at h
  split at h
  · cases h
  · exact (Except.error.inj h).symm

/-- A span does not break: it is not unpacked. -/
theorem not_breaks_span (range : Span) : ¬ (Value.span range).Breaks fault := by
  rintro (⟨raises, severe⟩ | ⟨unpacks, -, -⟩ | ⟨unpacks, -, -, -⟩)
  · obtain rfl := Except.error.inj raises
    cases severe.symm.trans (isDropped_notIterable _)
  · cases unpacks
  · cases unpacks

/-- What is no span is unpacked, and both members of a pair are read as numbers. -/
theorem Value.toOffsets_of_ne_span (h : ∀ range, item ≠ .span range) : item.toOffsets = (do
    match ← item.items with
    | [first, second] =>
      let start ← first.toOffset
      let stop ← second.toOffset
      return (start, stop)
    | _ => throw .noPair) := by
  unfold Value.toOffsets
  split
  next range => exact absurd rfl (h range)
  next => rfl

/-- An item breaks with the fault of asking it for its offsets. -/
theorem Value.breaks_iff : item.Breaks fault ↔
    item.toOffsets = .error fault ∧ fault.isDropped = false := by
  by_cases hspan : ∃ range, item = .span range
  · obtain ⟨range, rfl⟩ := hspan
    exact iff_of_false (not_breaks_span range) nofun
  rw [Value.toOffsets_of_ne_span (not_exists.1 hspan)]
  constructor
  · rintro (⟨raises, severe⟩ | ⟨unpacks, raises, severe⟩ | ⟨unpacks, begins, raises, severe⟩)
    · exact ⟨by rw [raises]; rfl, severe⟩
    · exact ⟨by rw [unpacks]; simp only [bind, Except.bind, raises], severe⟩
    · exact ⟨by rw [unpacks]; simp only [bind, Except.bind, begins, raises], severe⟩
  · rintro ⟨h, severe⟩
    cases unpacks : item.items with
    | error raised =>
      rw [unpacks] at h
      obtain rfl := Except.error.inj h
      exact .unpacking unpacks severe
    | ok members =>
      rw [unpacks] at h
      simp only [bind, Except.bind] at h
      split at h
      next first second =>
        -- the second member is only read if the first one is a number
        cases hstart : first.toOffset with
        | error raised =>
          rw [hstart] at h
          obtain rfl := Except.error.inj h
          exact .start unpacks hstart severe
        | ok start =>
          cases hstop : second.toOffset with
          | error raised =>
            rw [hstart, hstop] at h
            obtain rfl := Except.error.inj h
            exact .stop unpacks hstart hstop severe
          | ok stop =>
            rw [hstart, hstop] at h
            cases h
      next =>
        obtain rfl := Except.error.inj h
        cases severe.symm.trans isDropped_noPair

theorem dropItem_eq_error_iff {raised : Fault} :
    (dropItem label item raised).outcome = .error fault ↔
      raised = fault ∧ fault.isDropped = false := by
  unfold dropItem
  split
  next h =>
    refine iff_of_false nofun ?_
    rintro ⟨rfl, severe⟩
    simp [Fault.isDropped, h] at severe
  next hout =>
    split
    next h =>
      refine iff_of_false nofun ?_
      rintro ⟨rfl, severe⟩
      simp [Fault.isDropped, h] at severe
    next hno =>
      constructor
      · intro h
        obtain rfl := Except.error.inj h
        exact ⟨rfl, by simp [Fault.isDropped, hout, hno]⟩
      · rintro ⟨rfl, -⟩
        rfl

/-- An item ends the check with a fault exactly if it breaks. -/
theorem checkItem_eq_error_iff :
    (checkItem length label item).outcome = .error fault ↔ item.Breaks fault := by
  rw [Value.breaks_iff]
  unfold checkItem
  split
  next =>
    refine iff_of_false (fun h => by cases h) ?_
    rintro ⟨h, severe⟩
    obtain rfl := Except.error.inj h
    cases severe.symm.trans (isDropped_notIterable _)
  next =>
    cases hoffsets : item.toOffsets with
    | error raised =>
      have hspan : item.toSpan length = .error raised := by rw [Value.toSpan, hoffsets]; rfl
      rw [hspan]
      simp only [dropItem_eq_error_iff, Except.error.injEq]
    | ok offsets =>
      -- offsets that leave the text are never passed on as a fault
      have hspan : item.toSpan length = Span.within? length offsets.1 offsets.2 := by
        rw [Value.toSpan, hoffsets]
        rfl
      rw [hspan]
      refine iff_of_false ?_ fun h => by cases h.1
      split
      next =>
        intro h
        cases h
      next raised hraised =>
        rw [dropItem_eq_error_iff, Span.within?_eq_error hraised]
        rintro ⟨rfl, severe⟩
        cases severe.symm.trans (isDropped_outOfText _ _ _)

/-- The first item that breaks ends the check of a list. -/
theorem checkItems_eq_error_iff :
    (checkItems length label items).outcome = .error fault ↔
      FirstFault Value.Breaks items fault := by
  refine outcome_eq_error_iff_firstFault (checkItem length label) (checkItems length label)
    (fun _ => nofun) ?_ fun _ _ => checkItem_eq_error_iff
  intro item items fault
  simp only [checkItems, Run.outcome_bind_eq_error_iff, Run.outcome_pure, reduceCtorEq, and_false,
    exists_false, or_false, exists_and_right]

end Items

/-! ## Rules -/

/-- The rules that end extraction from a text with a fault: keywords and scanners whose fault cannot
be worded, and scanners that return an item that breaks. -/
inductive Rule.Interrupts (source : String) : Rule → Fault → Prop
  | keywords {words : List Value} {cause fault : Fault} (refused : keywordsOf words = .error cause)
      (mute : cause.wording = .error fault) : Interrupts source (.keywords words) fault
  | call {callee : Value} {cause fault : Fault}
      (raised : (scanItems callee source).outcome = .error cause)
      (mute : cause.wording = .error fault) : Interrupts source (.scanner callee) fault
  | item {callee : Value} {items : List Value} {fault : Fault}
      (produced : (scanItems callee source).outcome = .ok items)
      (breaks : FirstFault Value.Breaks items fault) : Interrupts source (.scanner callee) fault

section Rules

variable {rule : Rule} {source label : String} {fault : Fault}

theorem ruleFailureBy_eq_error_iff {cause : Fault} {report : String → Fault} :
    (ruleFailureBy cause report).outcome = .error fault ↔ cause.wording = .error fault := by
  unfold ruleFailureBy
  split
  next h => simp [h, outcome_ruleFailure]
  next h => simp [h, Run.fail]

/-- A rule ends with a fault exactly if it interrupts. -/
theorem Rule.extract_eq_error_iff :
    (rule.extract source label).outcome = .error fault ↔ rule.Interrupts source fault := by
  cases rule with
  | inert => exact iff_of_false (fun h => by cases h) (fun h => by cases h)
  | pattern compiled => exact iff_of_false (fun h => by cases h) (fun h => by cases h)
  | keywords words =>
    rw [extract]
    cases hwords : keywordsOf words with
    | ok texts =>
      refine iff_of_false (fun h => by cases h) ?_
      rintro ⟨refused, -⟩
      cases hwords.symm.trans refused
    | error cause =>
      simp only [ruleFailureBy_eq_error_iff]
      constructor
      · exact .keywords hwords
      · rintro ⟨refused, mute⟩
        obtain rfl := Except.error.inj (hwords.symm.trans refused)
        exact mute
  | scanner callee =>
    -- faults of the call are caught, so they end it only if they cannot be reported
    rw [extract, Run.outcome_bind_of_ok (Run.outcome_attempt _)]
    cases hitems : (scanItems callee source).outcome with
    | ok items =>
      simp only [Run.outcome_bind_eq_error_iff, checkItems_eq_error_iff]
      constructor
      · rintro (breaks | ⟨_, -, h⟩)
        · exact .item hitems breaks
        · cases h
      · rintro (_ | ⟨raised, -⟩ | ⟨produced, breaks⟩)
        · cases hitems.symm.trans raised
        · obtain rfl := Except.ok.inj (hitems.symm.trans produced)
          exact .inl breaks
    | error cause =>
      simp only [ruleFailureBy_eq_error_iff]
      constructor
      · exact .call hitems
      · rintro (_ | ⟨raised, mute⟩ | ⟨produced, -⟩)
        · obtain rfl := Except.error.inj (hitems.symm.trans raised)
          exact mute
        · cases hitems.symm.trans produced

end Rules

/-! ## Rules that were made of values -/

section Made

variable {source : String} {fault : Fault}

theorem findSome?_unhashable?_texts (words : List String) :
    (words.map Value.text).findSome? Value.unhashable? = none := by
  rw [List.findSome?_map, List.findSome?_eq_none_iff]
  intro word _
  rfl

theorem countedValues_texts (words : List String) :
    countedValues (words.map Value.text) = pure ((words.filter (!·.isEmpty)).map Value.text) := by
  induction words with
  | nil => rfl
  | cons word words ih =>
    have hcounts : (Value.text word).counts = pure (!word.isEmpty) := rfl
    rw [List.map_cons, countedValues, ih, hcounts, pure_bind, pure_bind, List.filter_cons]
    cases word.isEmpty <;> rfl

/-- Texts are words, and only the empty ones are left out. -/
theorem keywordsOf_texts (words : List String) :
    keywordsOf (words.map Value.text) =
      .ok ((words.filter (!·.isEmpty)).mergeSort fun a b => b.length ≤ a.length) := by
  -- a text has a length and is a word, so both passes over the values succeed on all of them
  let measured : String → Nat × Value := fun word => (word.length, .text word)
  have hlength :
      (fun value : Value => value.length.map fun length => (length, value)) ∘ Value.text =
      fun word => pure (measured word) := rfl
  have hword : (fun entry : Nat × Value => entry.2.word) ∘ measured = fun word => pure word := rfl
  have hsort : ((words.filter (!·.isEmpty)).map measured).mergeSort (fun a b => b.1 ≤ a.1) =
      ((words.filter (!·.isEmpty)).mergeSort fun a b => b.length ≤ a.length).map measured :=
    (@List.map_mergeSort _ _ _ _ measured _ fun _ _ _ _ => rfl).symm
  simp only [keywordsOf, findSome?_unhashable?_texts, countedValues_texts, pure_bind,
    List.mapM_map]
  rw [hlength, List.mapM_pure, pure_bind, hsort, List.mapM_map, hword, List.mapM_pure, List.map_id']
  rfl

theorem exists_texts_of_isWord {words : List Value} (isWord : ∀ word ∈ words, word.isWord = true) :
    ∃ texts : List String, words = texts.map .text := by
  induction words with
  | nil => exact ⟨[], rfl⟩
  | cons word words ih =>
    obtain ⟨hword, hwords⟩ := List.forall_mem_cons.1 isWord
    obtain ⟨texts, rfl⟩ := ih hwords
    cases word with
    | text text => exact ⟨text :: texts, rfl⟩
    | _ => cases hword

/-- Checked words can be matched. -/
theorem not_interrupts_of_isWord {words : List Value}
    (isWord : ∀ word ∈ words, word.isWord = true) :
    ¬ (Rule.keywords words).Interrupts source fault := by
  obtain ⟨texts, rfl⟩ := exists_texts_of_isWord isWord
  rintro ⟨refused, -⟩
  cases (keywordsOf_texts texts).symm.trans refused

/-- The only fault of a built-in scanner is that its pattern has no group for the name. -/
theorem fault_of_argumentName {grammar : Signature.Grammar} {text : List Char} {length : Nat}
    {slot : Signature.Slot}
    (h : (grammar.argumentName text length slot).outcome = .error fault) :
    fault = .raised .index "no such group" := by
  unfold Signature.Grammar.argumentName at h
  dsimp only at h
  split at h
  · cases h
  · split at h
    · cases h
    · rcases Run.outcome_bind_eq_error_iff.1 h with h | ⟨offsets, -, h⟩
      · unfold Signature.nameOffsets at h
        split at h
        · exact (Except.error.inj h).symm
        · split at h <;> cases h
      · unfold Span.orDrop at h
        split at h <;> cases h

theorem fault_of_namesIn {grammar : Signature.Grammar} {text : List Char} {length : Nat}
    {slots : List Signature.Slot}
    (h : (grammar.namesIn text length slots).outcome = .error fault) :
    fault = .raised .index "no such group" := by
  induction slots with
  | nil => cases h
  | cons slot slots ih =>
    simp only [Signature.Grammar.namesIn, Run.outcome_bind_eq_error_iff, Run.outcome_pure,
      reduceCtorEq, and_false, exists_false, or_false, exists_and_right] at h
    exact h.elim fault_of_argumentName fun h => ih h.2

theorem fault_of_scanLists {grammar : Signature.Grammar} {text : List Char} {length : Nat}
    {offsets : List Nat}
    (h : (grammar.scanLists text length offsets).outcome = .error fault) :
    fault = .raised .index "no such group" := by
  induction offsets with
  | nil => cases h
  | cons offset offsets ih =>
    simp only [Signature.Grammar.scanLists, Run.outcome_bind_eq_error_iff, Run.outcome_pure,
      reduceCtorEq, and_false, exists_false, or_false, exists_and_right] at h
    exact h.elim fault_of_namesIn fun h => ih h.2

/-- A built-in scanner returns spans, and its faults can be worded. -/
theorem not_interrupts_grammarScanner (grammar : Signature.Grammar) :
    ¬ (Rule.scanner (grammarScanner grammar)).Interrupts source fault := by
  rintro (_ | ⟨raised, mute⟩ | ⟨produced, breaks⟩)
  · simp only [grammarScanner, scanItems, Run.outcome_bind_eq_error_iff, Run.outcome_pure,
      reduceCtorEq, and_false, exists_false, or_false] at raised
    rcases raised with raised | ⟨value, hvalue, raised⟩
    · obtain rfl := fault_of_scanLists raised
      cases mute
    · obtain ⟨spans, -, hspans⟩ := Run.outcome_bind_eq_ok_iff.1 hvalue
      obtain rfl := Except.ok.inj hspans
      cases raised
  · simp only [grammarScanner, scanItems, Run.outcome_bind_eq_ok_iff, Run.outcome_pure] at produced
    obtain ⟨_, ⟨spans, -, hspans⟩, hitems⟩ := produced
    obtain rfl := Except.ok.inj hspans
    obtain rfl := Except.ok.inj hitems
    obtain ⟨before, item, after, hitems, -, breaks⟩ := breaks
    have hmem : item ∈ spans.map Value.span := by simp [hitems]
    obtain ⟨span, -, rfl⟩ := List.mem_map.1 hmem
    exact not_breaks_span span breaks

end Made

/-! ## Values -/

/-- The rule that a value is or holds, or that the value holds for which it stands. -/
inductive Value.Holds : Value → Rule → Prop
  | rule (rule : Rule) : Holds rule.toValue rule
  | scanner (name typeName : String) (scan : String → Run Value) :
      Holds (.scanner name typeName scan) (.scanner (.scanner name typeName scan))
  | standIn {conduct : Conduct Value} {value : Value} {rule : Rule}
      (stands : conduct.entry = .ok (some value)) (holds : value.Holds rule) :
      Holds (.foreign conduct) rule

section Reading

variable [PatternReader]

/-- The values that end extraction from a text with a fault: those that escape when they are made
rules, and those that hold a rule that does so. A fault about an entry that is no rule is reported,
whoever has raised it. -/
inductive Value.Interrupts (source : String) : Value → Fault → Prop
  | coercion {value : Value} {fault : Fault} (escapes : value.Escapes fault)
      (other : fault.isMalformed = false) : Interrupts source value fault
  | rule {value : Value} {rule : Rule} {fault : Fault} (holds : value.Holds rule)
      (interrupts : rule.Interrupts source fault) : Interrupts source value fault

variable {value : Value} {source type : String} {fault : Fault}

theorem Value.Holds.coerce_eq {rule : Rule} (h : value.Holds rule) (label : Value) :
    coerce label value = .ok rule := by
  induction h with
  | rule rule => exact coerce_toValue label rule
  | scanner name typeName scan => rfl
  | @standIn conduct value rule stands holds ih =>
    obtain ⟨typeName, entry⟩ := conduct
    obtain rfl : entry = .ok (some value) := stands
    exact ih

/-- A pattern never interrupts. -/
theorem not_interrupts_of_readPattern {label : Value} {source' : String} {options : Regex.Options}
    {rule : Rule} (h : (readPattern label source' options).map .pattern = .ok rule) :
    ¬ rule.Interrupts source fault := by
  cases hread : readPattern label source' options with
  | ok pattern =>
    rw [hread] at h
    obtain rfl := Except.ok.inj h
    exact nofun
  | error raised =>
    rw [hread] at h
    cases h

omit [PatternReader] in
theorem not_interrupts_of_coerceWords {label : Value} {words : List Value} {rule : Rule}
    (h : coerceWords label words = .ok rule) : ¬ rule.Interrupts source fault := by
  unfold coerceWords at h
  split at h
  next => cases h
  next hwords =>
    obtain rfl := Except.ok.inj h
    exact not_interrupts_of_isWord (by simpa using hwords)

theorem not_interrupts_of_coerceMapping {label : Value} {entries : List (Value × Value)}
    {rule : Rule} (h : coerceMapping label entries = .ok rule) :
    ¬ rule.Interrupts source fault := by
  unfold coerceMapping at h
  split at h
  · split at h
    · exact not_interrupts_of_readPattern h
    · cases h
  · cases h
  · next name _ _ =>
    cases name with
    | text name =>
      cases hscanner : builtinScanner? name with
      | none =>
        simp only [hscanner] at h
        cases h
      | some scanner =>
        simp only [hscanner] at h
        obtain ⟨grammar, -, rfl⟩ := Option.map_eq_some_iff.1 hscanner
        obtain rfl := Except.ok.inj h
        exact not_interrupts_grammarScanner grammar
    | _ => cases h
  · cases h

/-- Only a rule that a value holds can interrupt, and none that is made of the value. -/
theorem holds_of_coerce {label value : Value} {rule : Rule} (h : coerce label value = .ok rule)
    (interrupts : rule.Interrupts source fault) : value.Holds rule := by
  cases value with
  | scannerRule callee =>
    obtain rfl := Except.ok.inj h
    exact .rule (.scanner callee)
  | scanner name typeName scan =>
    obtain rfl := Except.ok.inj h
    exact .scanner name typeName scan
  | keywordRule words =>
    obtain rfl := Except.ok.inj h
    exact .rule (.keywords words)
  | map entries => exact absurd interrupts (not_interrupts_of_coerceMapping h)
  | text source => exact absurd interrupts (not_interrupts_of_readPattern h)
  | list words => exact absurd interrupts (not_interrupts_of_coerceWords h)
  | tuple words => exact absurd interrupts (not_interrupts_of_coerceWords h)
  | set frozen words => exact absurd interrupts (not_interrupts_of_coerceWords h)
  | foreign conduct =>
    match conduct with
    | { entry := .ok (some value), .. } => exact .standIn rfl (holds_of_coerce h interrupts)
    | { entry := .ok none, .. } => cases h
    | { entry := .error raised, .. } => cases h
  | bool value =>
    cases value with
    | false =>
      obtain rfl := Except.ok.inj h
      cases interrupts
    | true => cases h
  | patternRule value =>
    cases value with
    | pattern pattern =>
      obtain rfl := Except.ok.inj h
      cases interrupts
    | _ => cases h
  | pattern pattern =>
    obtain rfl := Except.ok.inj h
    cases interrupts
  | inertRule =>
    obtain rfl := Except.ok.inj h
    cases interrupts
  | null =>
    obtain rfl := Except.ok.inj h
    cases interrupts
  | _ => cases h

theorem extract_of_escapes (escapes : value.Escapes fault) :
    extract value source type =
      if fault.isMalformed then ruleFailure fault else .fail fault := by
  rw [extract, escapes.coerce_eq]

/-- Extraction ends with a fault exactly if the value interrupts it. -/
theorem extract_eq_error_iff :
    (extract value source type).outcome = .error fault ↔ value.Interrupts source fault := by
  constructor
  · intro h
    cases coerce_cases value with
    | rule rule eq =>
      rw [extract, eq] at h
      have interrupts := Rule.extract_eq_error_iff.1 h
      exact .rule (holds_of_coerce (eq .null) interrupts) interrupts
    | malformed defect eq =>
      rw [extract, eq, malformed_text] at h
      simp [outcome_ruleFailure] at h
    | escaped other escapes eq =>
      rw [extract_of_escapes escapes] at h
      split at h
      next => cases h
      next unreported =>
        obtain rfl := Except.error.inj h
        exact .coercion escapes (by simpa using unreported)
  · rintro (⟨escapes, unreported⟩ | ⟨holds, interrupts⟩)
    · rw [extract_of_escapes escapes, unreported]
      rfl
    · rw [extract, holds.coerce_eq]
      exact Rule.extract_eq_error_iff.2 interrupts

/-- The values that are reported and contribute nothing: those that are malformed, keywords that
cannot be matched, and scanners whose call raises. -/
inductive Value.Fails (source : String) (value : Value) : Prop
  | malformed {label : String} {fault : Fault} (refused : coerce (.text label) value = .error fault)
      (reported : fault.isMalformed = true)
  | keywords {label : Value} {words : List Value} {fault : Fault} {message : String}
      (rule : coerce label value = .ok (.keywords words))
      (refused : keywordsOf words = .error fault)
      (worded : fault.wording = .ok message)
  | scanner {label callee : Value} {fault : Fault} {message : String}
      (rule : coerce label value = .ok (.scanner callee))
      (raised : (scanItems callee source).outcome = .error fault)
      (worded : fault.wording = .ok message)

/-- A value is malformed for every entry or for none. -/
theorem exists_malformed_of_coerce {label : String} (h : coerce (.text label) value = .error fault)
    (reported : fault.isMalformed = true) (label' : String) :
    ∃ fault, coerce (.text label') value = .error fault ∧ fault.isMalformed = true := by
  cases coerce_cases value with
  | rule rule eq => cases (eq _).symm.trans h
  | malformed defect eq => exact ⟨_, eq _, by simp⟩
  | escaped other escapes eq =>
    obtain rfl := Except.error.inj ((eq _).symm.trans h)
    exact ⟨other, eq _, reported⟩

/-- A value that fails contributes nothing. -/
theorem extract_of_fails (fails : value.Fails source) :
    (extract value source type).outcome = .ok [] := by
  cases fails with
  | malformed refused reported =>
    obtain ⟨fault, refused, reported⟩ :=
      exists_malformed_of_coerce refused reported (entryLabel type)
    rw [extract, refused]
    simp [reported, outcome_ruleFailure]
  | keywords rule refused worded =>
    rw [extract, coerce_eq_ok_of_label rule]
    simp only [Rule.extract, refused, ruleFailureBy, worded]
    rfl
  | scanner rule raised worded =>
    rw [extract, coerce_eq_ok_of_label rule]
    simp only [Rule.extract]
    rw [Run.outcome_bind_of_ok (Run.outcome_attempt _), raised]
    simp only [ruleFailureBy, worded]
    rfl

/-! ## Profiles -/

section Profiles

variable {profile : Profile} {generation : Nat} {result : Highlights}

theorem exists_extract_iff :
    (∃ spans, (extract value source type).outcome = .ok spans) ↔
      ∀ fault, ¬ value.Interrupts source fault := by
  have interrupts := fun fault => @extract_eq_error_iff _ value source type fault
  simp only [← interrupts]
  cases (extract value source type).outcome <;> simp

theorem extractEntries_eq_error_iff {entries : List (String × Value)} :
    (extractEntries source entries).outcome = .error fault ↔
      FirstFault (fun entry => entry.2.Interrupts source) entries fault := by
  refine outcome_eq_error_iff_firstFault (fun entry => extract entry.2 source entry.1)
    (extractEntries source) (fun _ => nofun) ?_ fun _ _ => extract_eq_error_iff
  intro entry entries fault
  simp only [extractEntries, Run.outcome_bind_eq_error_iff, Run.outcome_count, Run.outcome_pure,
    reduceCtorEq, and_false, exists_false, or_false, false_or, exists_and_right, exists_const,
    true_and]

/-- A profile ends with the fault of its first entry that interrupts extraction. -/
theorem extractAll_eq_error_iff :
    (extractAll profile source generation).outcome = .error fault ↔
      FirstFault (fun entry => entry.2.Interrupts source) profile.entries fault := by
  rw [← extractEntries_eq_error_iff, extractAll, Run.outcome_bind_of_ok (Run.outcome_count _),
    Run.outcome_bind_eq_error_iff]
  simp only [Run.outcome_pure, reduceCtorEq, and_false, exists_false, or_false]

/-- A profile gives a result exactly if none of its entries interrupts extraction. -/
theorem exists_extractAll_iff :
    (∃ result, (extractAll profile source generation).outcome = .ok result) ↔
      ∀ entry ∈ profile.entries, ∀ fault, ¬ entry.2.Interrupts source fault := by
  have ends := fun fault => @extractAll_eq_error_iff _ source fault profile generation
  have first := exists_firstFault_iff (fun entry => Value.Interrupts source entry.2) profile.entries
  simp only [← ends] at first
  cases h : (extractAll profile source generation).outcome <;> simpa [h] using first

/-- Each type of a result has the spans that its entry gives alone. -/
theorem get_extractAll (h : (extractAll profile source generation).outcome = .ok result)
    (entry : String × Value) (hentry : entry ∈ profile.entries) :
    (extract entry.2 source entry.1).outcome = .ok (result.get entry.1) := by
  have distinct := nodup_types_extractAll h
  obtain ⟨spans, hspans, rfl⟩ := extractAll_eq_ok h
  obtain ⟨⟨_, found⟩, hmem, rfl, hfound⟩ :=
    exists_of_forall₂_left (extractEntries_eq_ok_iff.1 hspans) hentry
  rw [Highlights.get_eq_of_mem distinct hmem]
  exact hfound

end Profiles

/-- Extraction returns unless the value interrupts it, and a value that fails contributes nothing. A
profile ends with the fault of its first entry that interrupts extraction; if there is none, it
gives a result, in which each type has the spans that its entry gives alone. -/
theorem extraction_returns_unless_interrupted (value : Value) (profile : Profile)
    (source type : String) (generation : Nat) :
    (∀ fault, (extract value source type).outcome = .error fault ↔ value.Interrupts source fault) ∧
    (value.Fails source → (extract value source type).outcome = .ok []) ∧
    (∀ fault, (extractAll profile source generation).outcome = .error fault ↔
      FirstFault (fun entry => entry.2.Interrupts source) profile.entries fault) ∧
    ((∃ result, (extractAll profile source generation).outcome = .ok result) ↔
      ∀ entry ∈ profile.entries, ∀ fault, ¬ entry.2.Interrupts source fault) ∧
    ∀ result, (extractAll profile source generation).outcome = .ok result →
      result.types = profile.types ∧ ∀ entry ∈ profile.entries,
        (extract entry.2 source entry.1).outcome = .ok (result.get entry.1) := by
  refine ⟨fun fault => extract_eq_error_iff, extract_of_fails, fun fault => extractAll_eq_error_iff,
    exists_extractAll_iff, ?_⟩
  intro result h
  exact ⟨types_extractAll h, get_extractAll h⟩

end Reading

section Example

attribute [local instance] PatternReader.standard

/-- A pattern whose repeat count cannot be represented. -/
def largeRepeat : Value :=
  .text "x\x7b99999999999999999999\x7d"

theorem outcome_extract_largeRepeat :
    (extract largeRepeat "x" "").outcome = .error .repeatTooLarge := by
  decide +kernel

/-- Extraction from a value of each kind: one that interrupts it, one that fails, and the entries of
a profile that gives a result. -/
theorem extraction_returns_unless_largeRepeat :
    largeRepeat.Interrupts "x" .repeatTooLarge ∧ (extract (.int 3) "x" "").outcome = .ok [] ∧
      ∀ entry ∈ everyKind.entries, (extract entry.2 "a+" entry.1).outcome =
        .ok (Highlights.get { source := "a+", spans := everyKindSpans } entry.1) := by
  obtain ⟨hvalue, -⟩ := extraction_returns_unless_interrupted largeRepeat {} "x" "" 0
  obtain ⟨-, hfails, -⟩ := extraction_returns_unless_interrupted (.int 3) {} "x" "" 0
  obtain ⟨-, -, -, -, hprofile⟩ := extraction_returns_unless_interrupted .null everyKind "a+" "" 0
  refine ⟨(hvalue _).1 outcome_extract_largeRepeat, ?_, ?_⟩
  · exact hfails (@Value.Fails.malformed _ _ _ "" _ rfl (Fault.isMalformed_malformedRule _ _))
  · exact (hprofile _ extractAll_everyKind).2

/-- Extraction does not always return. -/
theorem extraction_interrupted_by_repeat_count :
    ¬ ∃ spans, (extract largeRepeat "x" "").outcome = .ok spans := by
  rintro ⟨spans, hspans⟩
  cases outcome_extract_largeRepeat.symm.trans hspans

end Example

end Highlighter
