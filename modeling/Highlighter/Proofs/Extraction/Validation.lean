import Highlighter.Proofs.Extraction.Totality

/-!
# What becomes of the items of a scanner

A scanner may return anything: spans, pairs of whatever can be read as a number, and values that are
neither. Each item is looked at on its own. It is valid if it gives two offsets and these are the
bounds of a span in the text; it then contributes this span, and otherwise nothing. So the spans of
a scanner are determined by how often each span is given, and the order of the items cannot be seen
in them.

All of this is so unless an item breaks: then its fault ends extraction, and the valid items are
lost with it. Of the values of known types only a pair with an infinite number in it does so, but a
value of another type may raise whatever it likes when it is unpacked or read as a number.

## Main definitions

* `Value.GivesOffsets` — the two offsets that an item gives
* `Value.Marks` — an item is valid and stands for a span of the text
* `Value.HoldsInfinite` — an item is a pair with an infinite number in it

## Main results

* `Value.toSpan_eq_ok_iff` — the items that are valid
* `Value.Breaks.holdsInfinite` — the items of known types that break
* `checkItems_eq_filterMap` — items are checked one by one
* `eq_of_ascending_of_count` — ascending spans are determined by how often each occurs
* `scanner_items_sorted_unless_broken` — the spans of a scanner are those of its valid items, in
  order
-/

namespace Highlighter

open Highlighter.Decimal (Binary)

/-! ## Valid items -/

/-- The offsets that an item gives: the bounds of a span, or the whole numbers that the members of a
pair are read as. -/
inductive Value.GivesOffsets : Value → Int → Int → Prop
  | span (range : Span) : GivesOffsets (.span range) range.start range.stop
  | pair {item first second : Value} {start stop : Int} (unpacks : item.items = .ok [first, second])
      (start_eq : first.toOffset = .ok start) (stop_eq : second.toOffset = .ok stop) :
      GivesOffsets item start stop

/-- An item stands for a span of a text of the given length. That the span does not begin before the
text and is not empty is part of its being a span. -/
structure Value.Marks (length : Nat) (item : Value) (span : Span) : Prop where
  gives : item.GivesOffsets span.start span.stop
  within : span.stop ≤ length

/-- A value is of a type that the library knows. -/
def Value.IsKnown (value : Value) : Prop :=
  ∀ conduct, value ≠ .foreign conduct

/-- A value is an infinite number. -/
def Value.IsInfinite (value : Value) : Prop :=
  ∃ number negative, value = .float number ∧ Binary.ofFloat number = .infinite negative

/-- An item is a pair, and a member of it is an infinite number. -/
def Value.HoldsInfinite (item : Value) : Prop :=
  ∃ first second, item.items = .ok [first, second] ∧ (first.IsInfinite ∨ second.IsInfinite)

/-- The span that an item stands for in a text of the given length, if it is valid. -/
def Value.span? (length : Nat) (item : Value) : Option Span :=
  (item.toSpan length).toOption

section Items

variable {length : Nat} {item : Value} {span : Span} {start stop : Int} {fault : Fault}

theorem Value.toOffsets_eq_ok_iff :
    item.toOffsets = .ok (start, stop) ↔ item.GivesOffsets start stop := by
  constructor
  · intro h
    by_cases hspan : ∃ range, item = .span range
    · obtain ⟨range, rfl⟩ := hspan
      obtain ⟨rfl, rfl⟩ := Prod.mk.inj (Except.ok.inj h)
      exact .span range
    · rw [toOffsets_of_ne_span (not_exists.1 hspan)] at h
      cases unpacks : item.items with
      | error raised =>
        rw [unpacks] at h
        cases h
      | ok members =>
        rw [unpacks] at h
        simp only [bind, Except.bind] at h
        split at h
        next first second =>
          cases hstart : first.toOffset with
          | error raised =>
            rw [hstart] at h
            cases h
          | ok start' =>
            cases hstop : second.toOffset with
            | error raised =>
              rw [hstart, hstop] at h
              cases h
            | ok stop' =>
              rw [hstart, hstop] at h
              obtain ⟨rfl, rfl⟩ := Prod.mk.inj (Except.ok.inj h)
              exact .pair unpacks hstart hstop
        next => cases h
  · rintro (range | ⟨unpacks, hstart, hstop⟩)
    · rfl
    · have hspan : ∀ range, item ≠ .span range := by
        rintro range rfl
        cases unpacks
      rw [toOffsets_of_ne_span hspan, unpacks]
      simp only [bind, Except.bind, hstart, hstop]
      rfl

/-- Offsets are those of a span in the text exactly if they are its bounds and it ends in the
text. -/
theorem Span.within?_eq_ok_iff : Span.within? length start stop = .ok span ↔
    start = span.start ∧ stop = span.stop ∧ span.stop ≤ length := by
  have hspan := span.start_lt_stop
  rw [within?]
  split
  next hbounds =>
    rw [Except.ok.injEq, Span.ext_iff]
    constructor
    · rintro ⟨hstart, hstop⟩
      simp only at hstart hstop
      omega
    · rintro ⟨rfl, rfl, -⟩
      exact ⟨rfl, rfl⟩
  next hbounds =>
    constructor
    · intro h
      cases h
    · rintro ⟨rfl, rfl, hstop⟩
      omega

/-- An item has a span exactly if it is valid. -/
theorem Value.toSpan_eq_ok_iff : item.toSpan length = .ok span ↔ item.Marks length span := by
  cases hoffsets : item.toOffsets with
  | error raised =>
    refine iff_of_false (by simp [toSpan, hoffsets, bind, Except.bind]) ?_
    rintro ⟨gives, -⟩
    cases hoffsets.symm.trans (toOffsets_eq_ok_iff.2 gives)
  | ok offsets =>
    obtain ⟨start, stop⟩ := offsets
    have hspan : item.toSpan length = Span.within? length start stop := by
      rw [toSpan, hoffsets]
      rfl
    rw [hspan, Span.within?_eq_ok_iff]
    constructor
    · rintro ⟨rfl, rfl, hstop⟩
      exact ⟨toOffsets_eq_ok_iff.1 hoffsets, hstop⟩
    · rintro ⟨gives, hstop⟩
      obtain ⟨rfl, rfl⟩ :=
        Prod.mk.inj (Except.ok.inj (hoffsets.symm.trans (toOffsets_eq_ok_iff.2 gives)))
      exact ⟨rfl, rfl, hstop⟩

theorem Value.span?_eq_some_iff : item.span? length = some span ↔ item.Marks length span := by
  rw [← toSpan_eq_ok_iff, span?]
  cases item.toSpan length <;> simp [Except.toOption]

instance (length : Nat) (item : Value) (span : Span) : Decidable (item.Marks length span) :=
  decidable_of_iff _ Value.span?_eq_some_iff

/-! ## Items that break -/

theorem isDropped_noWholeNumber : Fault.noWholeNumber.isDropped = true := by
  decide +kernel

theorem isDropped_noOffset (typeName : String) : (Fault.noOffset typeName).isDropped = true := by
  simp [Fault.isDropped, Fault.isNoRange, Fault.isA, Fault.bases, Fault.kind]

/-- A value of a known type can always be unpacked, or it is not iterable. -/
theorem Value.IsKnown.items_eq_error (known : item.IsKnown) (h : item.items = .error fault) :
    fault.isDropped = true := by
  cases item with
  | foreign conduct => exact absurd rfl (known conduct)
  | text _ | bytes _ | list _ | tuple _ | set _ _ | map _ => cases h
  | _ =>
    obtain rfl := Except.error.inj h
    exact isDropped_notIterable _

/-- Of the values of known types only an infinite number raises more than that it is no whole
number. -/
theorem Value.IsKnown.toOffset_eq_error (known : item.IsKnown) (h : item.toOffset = .error fault) :
    fault.isDropped = true ∨ fault = .infiniteOffset ∧ item.IsInfinite := by
  cases item with
  | foreign conduct => exact absurd rfl (known conduct)
  | float number =>
    simp only [toOffset] at h
    split at h
    next negative hinfinite =>
      exact .inr ⟨(Except.error.inj h).symm, number, negative, rfl, hinfinite⟩
    next =>
      obtain rfl := Except.error.inj h
      exact .inl isDropped_noWholeNumber
    next => cases h
  | text value =>
    simp only [toOffset] at h
    split at h
    · cases h
    · obtain rfl := Except.error.inj h
      exact .inl isDropped_noWholeNumber
  | bytes value =>
    simp only [toOffset] at h
    split at h
    · split at h
      · cases h
      · obtain rfl := Except.error.inj h
        exact .inl isDropped_noWholeNumber
    · obtain rfl := Except.error.inj h
      exact .inl isDropped_noWholeNumber
  | int _ | bool _ => cases h
  | _ =>
    obtain rfl := Except.error.inj h
    exact .inl (isDropped_noOffset _)

/-- Of the items of known types with members of known types, only a pair with an infinite number in
it breaks. -/
theorem Value.Breaks.holdsInfinite (breaks : item.Breaks fault) (known : item.IsKnown)
    (members : ∀ first second, item.items = .ok [first, second] → first.IsKnown ∧ second.IsKnown) :
    fault = .infiniteOffset ∧ item.HoldsInfinite := by
  cases breaks with
  | unpacking raises severe => cases severe.symm.trans (known.items_eq_error raises)
  | @start first second _ unpacks raises severe =>
    rcases (members _ _ unpacks).1.toOffset_eq_error raises with dropped | ⟨rfl, infinite⟩
    · cases severe.symm.trans dropped
    · exact ⟨rfl, first, second, unpacks, .inl infinite⟩
  | @stop first second _ _ unpacks begins raises severe =>
    rcases (members _ _ unpacks).2.toOffset_eq_error raises with dropped | ⟨rfl, infinite⟩
    · cases severe.symm.trans dropped
    · exact ⟨rfl, first, second, unpacks, .inr infinite⟩

end Items

/-! ## Checked items -/

section Checks

variable {length : Nat} {label : String}

/-- An item that does not break gives the span that it stands for, or nothing. -/
theorem checkItem_eq_span? {item : Value} (sound : ∀ fault, ¬ item.Breaks fault) :
    (checkItem length label item).outcome = .ok (item.span? length) := by
  cases hchecked : (checkItem length label item).outcome with
  | error fault => exact absurd (checkItem_eq_error_iff.1 hchecked) (sound fault)
  | ok checked =>
    unfold checkItem at hchecked
    split at hchecked
    next =>
      obtain rfl := Except.ok.inj hchecked
      rfl
    next =>
      rw [Value.span?]
      cases hspan : item.toSpan length with
      | ok span =>
        rw [hspan] at hchecked
        obtain rfl := Except.ok.inj hchecked
        rfl
      | error fault =>
        rw [hspan] at hchecked
        cases checked with
        | none => rfl
        | some span => exact absurd hchecked outcome_dropItem_ne_some

/-- Items are checked one by one: none is lost because of another, and none is left out twice. -/
theorem checkItems_eq_filterMap {items : List Value}
    (sound : ∀ item ∈ items, ∀ fault, ¬ item.Breaks fault) :
    (checkItems length label items).outcome = .ok (items.filterMap (·.span? length)) := by
  induction items with
  | nil => rfl
  | cons item items ih =>
    obtain ⟨hitem, hitems⟩ := List.forall_mem_cons.1 sound
    rw [checkItems, Run.outcome_bind_of_ok (checkItem_eq_span? hitem),
      Run.outcome_bind_of_ok (ih hitems), Run.outcome_pure, List.filterMap_cons]
    cases item.span? length <;> rfl

end Checks

/-! ## Sorted spans -/

/-- Ascending spans are determined by how often each of them occurs. -/
theorem eq_of_ascending_of_count {length length' : Nat} {spans others : List Span}
    (ordered : Ordered length spans) (ordered' : Ordered length' others)
    (same : ∀ span, spans.count span = others.count span) : spans = others := by
  refine List.Perm.eq_of_pairwise ?_ ordered.ascending ordered'.ascending
    (List.perm_iff_count.2 same)
  intro a b _ _ hab hba
  apply Span.ext <;> omega

/-- Every span occurs as often as an item stands for it. -/
theorem count_sorted_span? (length : Nat) (items : List Value) (span : Span) :
    (Span.sorted (items.filterMap (·.span? length))).count span =
      items.countP (·.Marks length span) := by
  rw [Span.sorted, (List.mergeSort_perm _ _).count_eq, List.count_filterMap]
  refine List.countP_congr fun item _ => ?_
  rw [beq_iff_eq, decide_eq_true_iff]
  exact Value.span?_eq_some_iff

section Scanners

variable [PatternReader] {callee : Value} {source : String} {items : List Value}

theorem outcome_extract_scannerRule (produced : (scanItems callee source).outcome = .ok items)
    (sound : ∀ item ∈ items, ∀ fault, ¬ item.Breaks fault) (type : String) :
    (extract (.scannerRule callee) source type).outcome =
      .ok (Span.sorted (items.filterMap (·.span? source.length))) := by
  show (Rule.extract (.scanner callee) source (entryLabel type)).outcome = _
  rw [Rule.extract, Run.outcome_bind_of_ok (Run.outcome_attempt _), produced]
  simp only
  rw [Run.outcome_bind_of_ok (checkItems_eq_filterMap sound), Run.outcome_pure]

theorem extract_scannerRule_eq_error_iff (produced : (scanItems callee source).outcome = .ok items)
    (type : String) (fault : Fault) :
    (extract (.scannerRule callee) source type).outcome = .error fault ↔
      FirstFault Value.Breaks items fault := by
  show (Rule.extract (.scanner callee) source (entryLabel type)).outcome = _ ↔ _
  rw [Rule.extract_eq_error_iff]
  constructor
  · rintro (_ | ⟨raised, -⟩ | ⟨produced', breaks⟩)
    · cases produced.symm.trans raised
    · obtain rfl := Except.ok.inj (produced.symm.trans produced')
      exact breaks
  · exact .item produced

/-- The items of a scanner are looked at one after the other. The first that breaks ends extraction
with its fault; of known types it can only be a pair with an infinite number in it. If none breaks,
then the spans are those that the items stand for: they ascend, each occurs as often as an item
stands for it, and they are the same for the same items in any other order. -/
theorem scanner_items_sorted_unless_broken
    (produced : (scanItems callee source).outcome = .ok items) (type : String) :
    (∀ fault, (extract (.scannerRule callee) source type).outcome = .error fault ↔
      FirstFault Value.Breaks items fault) ∧
    (∀ item ∈ items, ∀ fault, item.Breaks fault → item.IsKnown →
      (∀ first second, item.items = .ok [first, second] → first.IsKnown ∧ second.IsKnown) →
        fault = .infiniteOffset ∧ item.HoldsInfinite) ∧
    ((∀ item ∈ items, ∀ fault, ¬ item.Breaks fault) →
      ∃ spans, (extract (.scannerRule callee) source type).outcome = .ok spans ∧
        spans.Pairwise (fun a b => a.start < b.start ∨ a.start = b.start ∧ a.stop ≤ b.stop) ∧
        (∀ span, spans.count span = items.countP (·.Marks source.length span)) ∧
        ∀ other items', (scanItems other source).outcome = .ok items' → items'.Perm items →
          (extract (.scannerRule other) source type).outcome = .ok spans) := by
  refine ⟨extract_scannerRule_eq_error_iff produced type,
    fun item _ fault breaks => breaks.holdsInfinite, fun sound => ?_⟩
  have hspans := outcome_extract_scannerRule produced sound type
  refine ⟨_, hspans, (ordered_extract hspans).ascending, count_sorted_span? _ _, ?_⟩
  intro other items' produced' perm
  have hothers := outcome_extract_scannerRule produced'
    (fun item hitem => sound item (perm.mem_iff.1 hitem)) type
  rw [hothers]
  congr 1
  -- both lists ascend, and a span is given as often by the items in either order
  refine eq_of_ascending_of_count (ordered_extract hothers) (ordered_extract hspans) fun span => ?_
  rw [count_sorted_span?, count_sorted_span?]
  exact perm.countP_eq _

end Scanners

section Example

attribute [local instance] PatternReader.standard

/-- Items of every kind: spans, pairs of numbers in several spellings, two of them past the end of a
short text, and values that give no offsets at all. -/
def mixedItems : List Value :=
  [.span ⟨1, 2, Nat.one_lt_two⟩, .null, .tuple [.int 0, .int 2], .int 5, .text "02",
    .list [.float 1.5, .text " 2 "], .tuple [.int 1, .int 9], .bytes [0, 1],
    .tuple [.int 1, .int 1], .map [(.text "0", .null), (.bool true, .null)],
    .list [.int 0, .int 1, .int 2], .span ⟨0, 9, Nat.succ_pos 8⟩]

/-- A scanner that returns the given items. -/
def itemScanner (items : List Value) : Value :=
  .scanner "items" "function" fun _ => pure (.list items)

theorem not_holdsInfinite_mixedItems : ∀ item ∈ mixedItems, ¬ item.HoldsInfinite := by
  have hnumber : Binary.ofFloat 1.5 = .finite false 6755399441055744 (-52) := by decide +kernel
  simp [mixedItems, Value.HoldsInfinite, Value.items, Value.IsInfinite, hnumber]

theorem sound_mixedItems : ∀ item ∈ mixedItems, ∀ fault, ¬ item.Breaks fault := by
  have known : ∀ item ∈ mixedItems, item.IsKnown ∧
      ∀ first second, item.items = .ok [first, second] → first.IsKnown ∧ second.IsKnown := by
    simp [mixedItems, Value.IsKnown, Value.items]
  intro item hitem fault breaks
  obtain ⟨-, infinite⟩ := breaks.holdsInfinite (known item hitem).1 (known item hitem).2
  exact not_holdsInfinite_mixedItems item hitem infinite

/-- Valid items contribute their spans beside invalid ones, in either order. -/
theorem mixedItems_sorted_without_loss :
    (scanItems (itemScanner mixedItems) "abc").outcome = .ok mixedItems ∧
    (∀ item ∈ mixedItems, ∀ fault, ¬ item.Breaks fault) ∧
    ∃ spans, (extract (.scannerRule (itemScanner mixedItems)) "abc" "").outcome = .ok spans ∧
      spans.count ⟨0, 1, Nat.one_pos⟩ = 2 ∧ spans.count ⟨0, 2, Nat.two_pos⟩ = 2 ∧
      spans.count ⟨1, 2, Nat.one_lt_two⟩ = 2 ∧ spans.count ⟨0, 9, Nat.succ_pos 8⟩ = 0 ∧
      (extract (.scannerRule (itemScanner mixedItems.reverse)) "abc" "").outcome = .ok spans := by
  have produced : (scanItems (itemScanner mixedItems) "abc").outcome = .ok mixedItems := rfl
  obtain ⟨-, -, sorted⟩ := scanner_items_sorted_unless_broken produced ""
  obtain ⟨spans, hspans, -, hcount, hperm⟩ := sorted sound_mixedItems
  refine ⟨produced, sound_mixedItems, spans, hspans, ?_, ?_, ?_, ?_,
    hperm _ _ rfl (List.reverse_perm mixedItems)⟩
  -- how often a span occurs is counted on the items
  all_goals
    rw [hcount]
    decide +kernel

/-- A number of an unknown type that is infinite: it can be written, and it is not read as a whole
number. -/
def foreignInfinity : Value :=
  .foreign
    { typeName := "Decimal"
      entry := .ok none
      entries := .ok none
      members := .error (.notIterable "decimal.Decimal")
      offset := .error (.misuse "OverflowError" "cannot convert Infinity to integer")
      shown := .ok "Decimal('Infinity')"
      plain := .ok "Infinity"
      key := .ok ()
      counts := .ok true
      length := .error (.noLength "decimal.Decimal")
      word := .error (.notText "decimal.Decimal")
      folder := fun _ => .error (.misuse "AttributeError"
        "'decimal.Decimal' object has no attribute 'startswith'") }

/-- A valid item, and one with the given number in it. -/
def besideNumber (number : Value) : Value :=
  .scannerRule (itemScanner [.tuple [.int 0, .int 1], .tuple [number, .int 3]])

/-- A valid item is lost beside one with an infinite number in it, be that of a known type or
not. -/
theorem valid_item_lost_beside_infinity :
    (Value.tuple [.int 0, .int 1]).Marks 3 ⟨0, 1, Nat.one_pos⟩ ∧
    ¬ (Value.tuple [foreignInfinity, .int 3]).HoldsInfinite ∧
    (¬ ∃ spans, (extract (besideNumber foreignInfinity) "abc" "").outcome = .ok spans) ∧
    ¬ ∃ spans, (extract (besideNumber (.float (1.0 / 0.0))) "abc" "").outcome = .ok spans := by
  refine ⟨by decide +kernel, ?_, ?_, ?_⟩
  · simp [Value.HoldsInfinite, Value.items, Value.IsInfinite, foreignInfinity]
  · rintro ⟨spans, hspans⟩
    have raised : (extract (besideNumber foreignInfinity) "abc" "").outcome =
        .error (.misuse "OverflowError" "cannot convert Infinity to integer") := by decide +kernel
    cases raised.symm.trans hspans
  · rintro ⟨spans, hspans⟩
    have raised : (extract (besideNumber (.float (1.0 / 0.0))) "abc" "").outcome =
        .error .infiniteOffset := by decide +kernel
    cases raised.symm.trans hspans

end Example

end Highlighter
