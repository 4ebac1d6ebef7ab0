import Highlighter.Proofs.Coercion
import Highlighter.Proofs.Extraction
import Highlighter.Proofs.Regex.Progress

/-!
# Where the spans of a result lie

Every kind of rule has its own way to its spans: those of a pattern and of keywords are matches, one
after the other, and those of a scanner are checked and then sorted. All of them lie in the text and
ascend, and those that are matches do not overlap. An entry that is no rule keeps its place with no
spans, so a result has one entry for each declared type.

## Main definitions

* `Ordered` — spans in a text, in ascending order
* `Apart` — spans that follow one another without overlap
* `Value.IsMatched` — the value stands for a pattern or for keywords
* `Orderly` — a result with the declared types, ordered spans, and apart ones where they are matches
* `Value.KeptAs` — what a profile keeps of a value

## Main results

* `Rule.ordered_extract`, `Rule.apart_extract` — the spans of one rule
* `orderly_of_extractAll`, `orderly_of_tokenize` — the spans of a whole result
-/

namespace Highlighter

open Highlighter.Regex

/-! ## Lists of spans -/

/-- Spans in a text of the given length, in ascending order. -/
structure Ordered (length : Nat) (spans : List Span) : Prop where
  within : ∀ span ∈ spans, span.start < span.stop ∧ span.stop ≤ length
  ascending : spans.Pairwise fun a b => a.start < b.start ∨ a.start = b.start ∧ a.stop ≤ b.stop

/-- Spans each of which ends where the next one begins, or earlier. -/
def Apart (spans : List Span) : Prop :=
  spans.Pairwise fun a b => a.stop ≤ b.start

theorem Ordered.nil (length : Nat) : Ordered length [] :=
  ⟨by simp, .nil⟩

/-- Spans that are apart ascend, since none is empty. -/
theorem Apart.ordered {length : Nat} {spans : List Span} (apart : Apart spans)
    (within : ∀ span ∈ spans, span.stop ≤ length) : Ordered length spans where
  within span hspan := ⟨span.start_lt_stop, within span hspan⟩
  ascending := by
    refine apart.imp fun {a b} h => ?_
    have := a.start_lt_stop
    omega

theorem Span.le_iff {a b : Span} :
    a.le b = true ↔ a.start < b.start ∨ a.start = b.start ∧ a.stop ≤ b.stop := by
  simp [le]

/-- Sorting makes spans ascend. -/
theorem ordered_sorted {length : Nat} {spans : List Span}
    (within : ∀ span ∈ spans, span.stop ≤ length) : Ordered length (Span.sorted spans) where
  within span hspan := ⟨span.start_lt_stop, within span (List.mem_mergeSort.1 hspan)⟩
  ascending := by
    have htrans : ∀ a b c : Span, a.le b = true → b.le c = true → a.le c = true := by
      intro a b c
      simp only [Span.le_iff]
      omega
    have htotal : ∀ a b : Span, (a.le b || b.le a) = true := by
      intro a b
      simp only [Bool.or_eq_true, Span.le_iff]
      omega
    exact (List.pairwise_mergeSort htrans htotal spans).imp Span.le_iff.1

/-! ## Matches -/

section Matches

variable {pattern : Pattern} {source : List Char} {span : Span}

/-- The span of a match that is not empty. -/
def spanOf? (found : Match) : Option Span :=
  if h : found.start < found.stop then some ⟨found.start, found.stop, h⟩ else none

theorem matchSpans_eq_filterMap (pattern : Pattern) (source : List Char) :
    matchSpans pattern source = (pattern.findAll source).filterMap spanOf? :=
  rfl

/-- A span of a match has its offsets. -/
theorem offsets_of_spanOf? {found : Match} (h : spanOf? found = some span) :
    found.start = span.start ∧ found.stop = span.stop := by
  rw [spanOf?] at h
  split at h
  next =>
    obtain rfl := Option.some.inj h
    exact ⟨rfl, rfl⟩
  next => cases h

theorem apart_matchSpans (pattern : Pattern) (source : List Char) :
    Apart (matchSpans pattern source) := by
  rw [matchSpans_eq_filterMap]
  refine (pattern.findAll_ordered source).filterMap _ ?_
  -- leaving matches out keeps the order, and those that are left have the offsets of their spans
  intro found next hle span hspan span' hspan'
  obtain ⟨-, hstop⟩ := offsets_of_spanOf? hspan
  obtain ⟨hstart, -⟩ := offsets_of_spanOf? hspan'
  rw [← hstop, ← hstart]
  exact hle

theorem ordered_matchSpans (pattern : Pattern) (source : List Char) :
    Ordered source.length (matchSpans pattern source) := by
  refine (apart_matchSpans pattern source).ordered fun span hspan => ?_
  rw [matchSpans_eq_filterMap] at hspan
  obtain ⟨found, hfound, hoffsets⟩ := List.mem_filterMap.1 hspan
  rw [← (offsets_of_spanOf? hoffsets).2]
  exact (Pattern.findAll_proper hfound).stop_le

end Matches

/-! ## Scanner items -/

section Items

variable {length : Nat} {label : String}

theorem Span.stop_le_of_within? {start stop : Int} {span : Span}
    (h : within? length start stop = .ok span) : span.stop ≤ length := by
  rw [within?] at h
  split at h
  next hbounds =>
    obtain rfl := Except.ok.inj h
    show stop.toNat ≤ length
    omega
  next => cases h

theorem stop_le_of_toSpan {item : Value} {span : Span} (h : item.toSpan length = .ok span) :
    span.stop ≤ length := by
  cases hoffsets : item.toOffsets with
  | error fault => simp [Value.toSpan, hoffsets, bind, Except.bind] at h
  | ok offsets =>
    rw [Value.toSpan, hoffsets] at h
    exact Span.stop_le_of_within? h

/-- An item that is dropped gives no span. -/
theorem outcome_dropItem_ne_some {item : Value} {fault : Fault} {span : Span} :
    (dropItem label item fault).outcome ≠ .ok (some span) := by
  unfold dropItem
  split
  · rintro ⟨⟩
  · split <;> rintro ⟨⟩

/-- An item that stands for a span has passed the check of its offsets. -/
theorem stop_le_of_checkItem {item : Value} {span : Span}
    (h : (checkItem length label item).outcome = .ok (some span)) : span.stop ≤ length := by
  unfold checkItem at h
  split at h
  next => cases h
  next =>
    split at h
    next checked hchecked =>
      obtain rfl := Option.some.inj (Except.ok.inj h)
      exact stop_le_of_toSpan hchecked
    next => exact absurd h outcome_dropItem_ne_some

theorem stop_le_of_checkItems {items : List Value} {spans : List Span}
    (h : (checkItems length label items).outcome = .ok spans) :
    ∀ span ∈ spans, span.stop ≤ length := by
  induction items generalizing spans with
  | nil =>
    obtain rfl : [] = spans := Except.ok.inj h
    simp
  | cons item items ih =>
    simp only [checkItems, Run.outcome_bind_eq_ok_iff, Run.outcome_pure] at h
    obtain ⟨checked, hchecked, others, hothers, hspans⟩ := h
    obtain rfl := Except.ok.inj hspans
    intro span hspan
    rcases List.mem_append.1 hspan with hspan | hspan
    · obtain rfl := Option.mem_toList.1 hspan
      exact stop_le_of_checkItem hchecked
    · exact ih hothers span hspan

end Items

/-! ## Rules and entries -/

/-- Whether a rule finds its spans by matching. -/
def Rule.isMatched : Rule → Bool
  | .pattern _ => true
  | .keywords _ => true
  | _ => false

section Reading

variable [PatternReader]

/-- The value stands for a rule that finds its spans by matching. -/
def Value.IsMatched (value : Value) : Prop :=
  ∃ label rule, coerce label value = .ok rule ∧ rule.isMatched = true

section Rules

variable {rule : Rule} {value : Value} {source label type : String} {spans : List Span}

omit [PatternReader] in
/-- A rule that is reported contributes nothing. -/
theorem outcome_ruleFailure (fault : Fault) : (ruleFailure fault).outcome = .ok [] :=
  rfl

omit [PatternReader] in
/-- A rule whose fault is reported contributes nothing. -/
theorem eq_nil_of_ruleFailureBy {cause : Fault} {report : String → Fault}
    (h : (ruleFailureBy cause report).outcome = .ok spans) : spans = [] := by
  unfold ruleFailureBy at h
  split at h
  next => exact (Except.ok.inj ((outcome_ruleFailure _).symm.trans h)).symm
  next => cases h

omit [PatternReader] in
/-- The spans of a rule that matches are those of one pattern, or there are none. -/
theorem Rule.extract_isMatched (matched : rule.isMatched = true)
    (h : (rule.extract source label).outcome = .ok spans) :
    spans = [] ∨ ∃ pattern, spans = matchSpans pattern source.toList := by
  cases rule with
  | pattern compiled => exact .inr ⟨compiled, (Except.ok.inj h).symm⟩
  | keywords words =>
    rw [extract] at h
    split at h
    next words _ =>
      obtain rfl := Except.ok.inj h
      cases keywordPattern? words with
      | none => exact .inl rfl
      | some compiled => exact .inr ⟨compiled, rfl⟩
    next => exact .inl (eq_nil_of_ruleFailureBy h)
  | scanner callee => cases matched
  | inert => cases matched

omit [PatternReader] in
theorem Rule.apart_extract (matched : rule.isMatched = true)
    (h : (rule.extract source label).outcome = .ok spans) : Apart spans := by
  rcases extract_isMatched matched h with rfl | ⟨pattern, rfl⟩
  · exact .nil
  · exact apart_matchSpans pattern source.toList

omit [PatternReader] in
theorem Rule.ordered_extract (h : (rule.extract source label).outcome = .ok spans) :
    Ordered source.length spans := by
  by_cases matched : rule.isMatched = true
  · rcases extract_isMatched matched h with rfl | ⟨pattern, rfl⟩
    · exact .nil _
    · rw [← String.length_toList]
      exact ordered_matchSpans pattern source.toList
  · cases rule with
    | pattern compiled => exact absurd rfl matched
    | keywords words => exact absurd rfl matched
    | inert =>
      obtain rfl : [] = spans := Except.ok.inj h
      exact .nil _
    | scanner callee =>
      simp only [extract, Run.outcome_bind_eq_ok_iff, Run.outcome_attempt, Except.ok.injEq] at h
      obtain ⟨_, rfl, h⟩ := h
      split at h
      next items _ =>
        -- what the scanner produced was checked item by item before it was sorted
        obtain ⟨checked, hchecked, hspans⟩ := Run.outcome_bind_eq_ok_iff.1 h
        obtain rfl := Except.ok.inj hspans
        exact ordered_sorted (stop_le_of_checkItems hchecked)
      next fault _ =>
        obtain rfl := eq_nil_of_ruleFailureBy h
        exact .nil _

/-- Extraction either reports an entry, which then has no spans, or follows its rule. -/
theorem extract_cases (h : (extract value source type).outcome = .ok spans) :
    spans = [] ∨ ∃ rule, coerce (.text (entryLabel type)) value = .ok rule ∧
      (rule.extract source (entryLabel type)).outcome = .ok spans := by
  rw [extract] at h
  split at h
  next rule hrule => exact .inr ⟨rule, hrule, h⟩
  next =>
    split at h
    next => exact .inl (Except.ok.inj ((outcome_ruleFailure _).symm.trans h)).symm
    next => cases h

theorem ordered_extract (h : (extract value source type).outcome = .ok spans) :
    Ordered source.length spans := by
  rcases extract_cases h with rfl | ⟨rule, -, hrule⟩
  · exact .nil _
  · exact rule.ordered_extract hrule

theorem apart_extract (matched : value.IsMatched)
    (h : (extract value source type).outcome = .ok spans) : Apart spans := by
  obtain ⟨label, rule, hcoerce, hmatched⟩ := matched
  rcases extract_cases h with rfl | ⟨rule', hcoerce', hrule⟩
  · exact .nil
  · obtain rfl : rule = rule' :=
      Except.ok.inj ((coerce_eq_ok_of_label hcoerce _).symm.trans hcoerce')
    exact rule.apart_extract hmatched hrule

end Rules

/-! ## Results -/

/-- A result for declared entries: it has their types in their order, the spans of each type lie in
the text and ascend, and those of an entry that is matched do not overlap. -/
structure Orderly (entries : List (String × Value)) (source : String) (result : Highlights) :
    Prop where
  distinct : result.types.Nodup
  types_eq : result.types = entries.map (·.1)
  ordered : ∀ type spans, (type, spans) ∈ result.spans → Ordered source.length spans
  apart : ∀ type value, (type, value) ∈ entries → value.IsMatched → Apart (result.get type)

theorem orderly_of_extractAll {profile : Profile} {source : String} {generation : Nat}
    {result : Highlights} (h : (extractAll profile source generation).outcome = .ok result) :
    Orderly profile.entries source result := by
  have distinct := nodup_types_extractAll h
  have types_eq := types_extractAll h
  obtain ⟨spans, hspans, rfl⟩ := extractAll_eq_ok h
  have hgiven := extractEntries_eq_ok_iff.1 hspans
  refine ⟨distinct, types_eq, ?_, ?_⟩
  · intro type found hfound
    obtain ⟨entry, -, rfl, hextract⟩ := exists_of_forall₂_right hgiven hfound
    exact ordered_extract hextract
  · intro type value hentry matched
    obtain ⟨⟨_, found⟩, hfound, rfl, hextract⟩ := exists_of_forall₂_left hgiven hentry
    rw [Highlights.get_eq_of_mem distinct hfound]
    exact apart_extract matched hextract

/-! ## Mappings -/

/-- A declared entry as an entry of a mapping. -/
def asMapping (entry : String × Value) : Value × Value :=
  (.text entry.1, entry.2)

omit [PatternReader] in
theorem eq_map_asMapping_of_checkEntries {seen : List String} {entries : List (Value × Value)}
    {checked : List (String × Value)} (h : Profile.checkEntries seen entries = .ok checked) :
    entries = checked.map asMapping := by
  induction entries generalizing seen checked with
  | nil =>
    obtain rfl : [] = checked := Except.ok.inj h
    rfl
  | cons entry entries ih =>
    obtain ⟨type, rest, hkey, -, -, hrest, rfl⟩ := Profile.checkEntries_cons_eq_ok h
    rw [List.map_cons, ← ih hrest, asMapping, ← hkey]

omit [PatternReader] in
theorem eq_map_asMapping_of_make {name : String} {entries : List (Value × Value)}
    {profile : Profile} (h : Profile.make name entries = .ok profile) :
    entries = profile.entries.map asMapping := by
  rw [Profile.make] at h
  split at h
  next checked hchecked =>
    obtain rfl := Except.ok.inj h
    exact eq_map_asMapping_of_checkEntries hchecked
  next => cases h

/-- What a profile keeps of a value: the rule it stands for, or a malformed value as it is. -/
inductive Value.KeptAs (value : Value) : Value → Prop
  | rule (rule : Rule) (eq : ∀ label, coerce label value = .ok rule) : KeptAs value rule.toValue
  | malformed {label : Value} {fault : Fault} (eq : coerce label value = .error fault)
      (reported : fault.isMalformed = true) : KeptAs value value

/-- An entry becomes what a profile keeps of it. -/
theorem keptAs_of_coerceEntry {label : String} {key value kept : Value}
    (h : (Profile.coerceEntry label key value).outcome = .ok kept) : value.KeptAs kept := by
  unfold Profile.coerceEntry at h
  split at h
  next rule hrule =>
    obtain rfl := Except.ok.inj h
    exact .rule rule (coerce_eq_ok_of_label hrule)
  next fault hfault =>
    split at h
    next reported =>
      obtain rfl := Except.ok.inj h
      exact .malformed hfault reported
    next => cases h

/-- A profile keeps its entries in their places. -/
theorem keptAs_of_coerceEntries {label : String} {entries kept : List (Value × Value)}
    (h : (Profile.coerceEntries label entries).outcome = .ok kept) :
    List.Forall₂ (fun entry kept => kept.1 = entry.1 ∧ entry.2.KeptAs kept.2) entries kept := by
  induction entries generalizing kept with
  | nil =>
    obtain rfl : [] = kept := Except.ok.inj h
    exact .nil
  | cons entry entries ih =>
    obtain ⟨key, value⟩ := entry
    simp only [Profile.coerceEntries, Run.outcome_bind_eq_ok_iff, Run.outcome_pure] at h
    obtain ⟨first, hfirst, others, hothers, hkept⟩ := h
    obtain rfl := Except.ok.inj hkept
    exact .cons ⟨rfl, keptAs_of_coerceEntry hfirst⟩ (ih hothers)

/-- What is matched stays so when it is kept. -/
theorem Value.KeptAs.isMatched {value kept : Value} (h : value.KeptAs kept)
    (matched : value.IsMatched) : kept.IsMatched := by
  cases h with
  | rule rule eq =>
    obtain ⟨label, rule', hcoerce, matched⟩ := matched
    obtain rfl := Except.ok.inj ((eq label).symm.trans hcoerce)
    exact ⟨label, rule, coerce_toValue label rule, matched⟩
  | malformed eq reported => exact matched

/-- An entry of a mapping with what a profile keeps of it: the rule it stands for, or the value. -/
def KeptFor (entry kept : Value × Value) : Prop :=
  kept.1 = entry.1 ∧ (entry.2.IsMatched → kept.2.IsMatched)

theorem keptFor_of_coerceEntries {label : String} {entries kept : List (Value × Value)}
    (h : (Profile.coerceEntries label entries).outcome = .ok kept) :
    List.Forall₂ KeptFor entries kept :=
  (keptAs_of_coerceEntries h).imp fun _ _ hkept => ⟨hkept.1, hkept.2.isMatched⟩

/-- The entries of a mapping have the names that the profile keeps, and what is matched stays so. -/
theorem exists_declared {entries : List (Value × Value)} {kept : List (String × Value)}
    (h : List.Forall₂ KeptFor entries (kept.map asMapping)) :
    ∃ declared : List (String × Value), entries = declared.map asMapping ∧
      kept.map (·.1) = declared.map (·.1) ∧
      ∀ type value, (type, value) ∈ declared → value.IsMatched →
        ∃ value', (type, value') ∈ kept ∧ value'.IsMatched := by
  induction kept generalizing entries with
  | nil =>
    obtain rfl := List.forall₂_nil_right_iff.1 h
    exact ⟨[], rfl, rfl, by simp⟩
  | cons entry kept ih =>
    obtain ⟨⟨key, value⟩, others, ⟨hkey, hvalue⟩, hothers, rfl⟩ :=
      List.forall₂_cons_right_iff.1 h
    obtain ⟨declared, rfl, hnames, hmatched⟩ := ih hothers
    obtain rfl : .text entry.1 = key := hkey
    refine ⟨(entry.1, value) :: declared, rfl, by simp [hnames], ?_⟩
    intro type value' hmem matched
    rcases List.mem_cons.1 hmem with heq | hmem
    · obtain ⟨rfl, rfl⟩ := Prod.mk.inj heq
      exact ⟨entry.2, List.mem_cons_self, hvalue matched⟩
    · obtain ⟨kept', hkept, hmatched'⟩ := hmatched type value' hmem matched
      exact ⟨kept', List.mem_cons_of_mem _ hkept, hmatched'⟩

theorem orderly_of_tokenize {source : String} {entries : List (Value × Value)}
    {result : Highlights} (h : (tokenize source entries).outcome = .ok result) :
    ∃ declared, entries = declared.map asMapping ∧ Orderly declared source result := by
  simp only [tokenize, Profile.ofMapping, Run.outcome_bind_eq_ok_iff] at h
  obtain ⟨profile, ⟨kept, hkept, hprofile⟩, hresult⟩ := h
  have orderly := orderly_of_extractAll hresult
  have hkeys : List.Forall₂ KeptFor entries (profile.entries.map asMapping) :=
    eq_map_asMapping_of_make hprofile ▸ keptFor_of_coerceEntries hkept
  obtain ⟨declared, rfl, hnames, hmatched⟩ := exists_declared hkeys
  refine ⟨declared, rfl, orderly.distinct, orderly.types_eq.trans hnames, orderly.ordered, ?_⟩
  intro type value hentry matched
  obtain ⟨value', hentry', matched'⟩ := hmatched type value hentry matched
  exact orderly.apart type value' hentry' matched'

/-- Whatever a text is tokenized with, the result has the declared types in their order, all spans
lie in the text and ascend, and those that are matches do not overlap. -/
theorem tokenized_spans_orderly :
    (∀ (profile : Profile) (source : String) (result : Highlights),
      (extractAll profile source).outcome = .ok result → Orderly profile.entries source result) ∧
    ∀ (source : String) (entries : List (Value × Value)) (result : Highlights),
      (tokenize source entries).outcome = .ok result →
        ∃ declared, entries = declared.map asMapping ∧ Orderly declared source result :=
  ⟨fun _ _ _ h => orderly_of_extractAll h, fun _ _ _ h => orderly_of_tokenize h⟩

end Reading

section Example

attribute [local instance] PatternReader.standard

/-- Entries of every kind: a pattern that also matches nothing, keywords, a scanner that produces
overlapping pairs in the wrong order, a declared type without rule, and one that is no rule. -/
def everyKind : Profile where
  entries :=
    [("run", .text "a*"), ("sign", .list [.text "+"]),
      ("pair", .scanner "pairs" "function" fun _ =>
        pure (.list [.tuple [.int 1, .int 2], .tuple [.int 0, .int 2], .int 5])),
      ("slot", .null), ("number", .int 3)]

/-- The spans of these entries in a text. -/
def everyKindSpans : List (String × List Span) :=
  [("run", [⟨0, 1, Nat.one_pos⟩]), ("sign", [⟨1, 2, Nat.one_lt_two⟩]),
    ("pair", [⟨0, 2, Nat.two_pos⟩, ⟨1, 2, Nat.one_lt_two⟩]), ("slot", []), ("number", [])]

theorem sorted_pairs : Span.sorted [⟨1, 2, Nat.one_lt_two⟩, ⟨0, 2, Nat.two_pos⟩] =
    [⟨0, 2, Nat.two_pos⟩, ⟨1, 2, Nat.one_lt_two⟩] := by
  simp [Span.sorted, List.mergeSort, Span.le]

theorem extractAll_everyKind :
    (extractAll everyKind "a+").outcome = .ok { source := "a+", spans := everyKindSpans } := by
  refine extractAll_of_givenAlone (.cons ⟨rfl, ?_⟩ (.cons ⟨rfl, ?_⟩ (.cons ⟨rfl, ?_⟩
    (.cons ⟨rfl, rfl⟩ (.cons ⟨rfl, rfl⟩ .nil)))))
  · decide +kernel
  · decide +kernel
  · rw [← sorted_pairs]
    rfl

/-- A mapping with a pattern and a value that is no rule. -/
def runsAndNumber : List (Value × Value) :=
  [(.text "run", .text "a+"), (.text "number", .int 3)]

theorem tokenize_runsAndNumber :
    (tokenize "aab" runsAndNumber).outcome =
      .ok { source := "aab", spans := [("run", [⟨0, 2, by decide⟩]), ("number", [])] } :=
  rfl

theorem everyKind_spans_orderly :
    ((extractAll everyKind "a+").outcome = .ok { source := "a+", spans := everyKindSpans } ∧
      Orderly everyKind.entries "a+" { source := "a+", spans := everyKindSpans }) ∧
    (tokenize "aab" runsAndNumber).outcome =
        .ok { source := "aab", spans := [("run", [⟨0, 2, by decide⟩]), ("number", [])] } ∧
      ∃ declared, runsAndNumber = declared.map asMapping ∧
        Orderly declared "aab"
          { source := "aab", spans := [("run", [⟨0, 2, by decide⟩]), ("number", [])] } :=
  ⟨⟨extractAll_everyKind, tokenized_spans_orderly.1 _ _ _ extractAll_everyKind⟩,
    tokenize_runsAndNumber, tokenized_spans_orderly.2 _ _ _ tokenize_runsAndNumber⟩

end Example

end Highlighter
