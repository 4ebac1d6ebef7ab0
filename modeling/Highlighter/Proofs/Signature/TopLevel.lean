import Highlighter.Proofs.Signature.Parameter

/-!
# Parameter names and the code around them

A parameter list is read twice. It is first read character by character, with its literals, comments
and groups, and cut into slots. A pattern then looks for a name in the text of each slot, and it
knows of literals, comments and groups only in part. This file says when the two readings agree.

In Python they always do. In PHP the name is the first variable of the slot, wherever it stands. In
JavaScript the pattern passes over comments as they are read, unless no name follows them; it then
looks for a later end of one of the comments.

## Main definitions

* `ReadAsCode` — the characters of a span are code outside of all groups
* `Strays` — how the pattern passes over text that it does not understand
* `Misplaced` — a name that is found where no name stands

## Main results

* `exists_findsName` — what is passed over before a name is neutral, or the pattern strays
* `readAsCode_iff` — a name is code outside of all groups iff it begins there
* `names_read_as_code_iff` — all names of a list are, but for those that are misplaced
-/

namespace Highlighter.Signature

open Highlighter.Regex Highlighter.Text ScanState

/-! ## Names and their slots -/

/-- The text of a slot. -/
def Slot.text (slot : Slot) (source : List Char) : List Char :=
  (source.drop slot.start).take (slot.stop - slot.start)

/-- A span covers a name in the text of a slot, after what is passed over. -/
structure Locates (source : List Char) (slot : Slot) (span : Span) (passed name rest : List Char) :
    Prop where
  text_eq : slot.text source = passed ++ (name ++ rest)
  start_eq : span.start = slot.start + passed.length
  stop_eq : span.stop = span.start + name.length

/-- The characters of a span are read in code, outside of all groups. -/
def ReadAsCode (lexis : Lexis) (source : List Char) (offset : Nat) (span : Span) : Prop :=
  ∀ place < span.stop, span.start ≤ place → (stateAt lexis source offset place).IsTopCode

instance (lexis : Lexis) (source : List Char) (offset : Nat) (span : Span) :
    Decidable (ReadAsCode lexis source offset span) :=
  inferInstanceAs (Decidable (∀ place < span.stop, _ → _))

theorem Slot.take_drop_of_text_eq {slot : Slot} {source first others : List Char}
    (h : slot.text source = first ++ others) :
    (source.drop slot.start).take first.length = first := by
  have hlength : first.length ≤ slot.stop - slot.start := by
    have hle := List.length_take_le (slot.stop - slot.start) (source.drop slot.start)
    rw [← Slot.text, h, List.length_append] at hle
    omega
  have htake := congrArg (List.take first.length) h
  rwa [Slot.text, List.take_take, Nat.min_eq_left hlength, List.take_left] at htake

section Slots

variable {lexis : Lexis} {source passed name rest : List Char} {offset : Nat} {slot : Slot}
  {span : Span}

/-- A name is code outside of all groups iff it begins there. -/
theorem readAsCode_iff (coherent : lexis.Coherent) (h : slot ∈ slots lexis source offset)
    (locates : Locates source slot span passed name rest)
    (ordinary : ∀ c ∈ name, c ∉ lexis.specials) :
    ReadAsCode lexis source offset span ↔ (({} : ScanState).after lexis passed).IsTopCode := by
  obtain ⟨htext, hstart, hstop⟩ := locates
  constructor
  · intro readAsCode
    have hfirst := readAsCode span.start span.start_lt_stop (Nat.le_refl _)
    rwa [hstart, isTopCode_stateAt_slot coherent h, Slot.take_drop_of_text_eq htext] at hfirst
  · intro isTopCode place hplace hspan
    obtain ⟨count, rfl⟩ := Nat.exists_eq_add_of_le hspan
    -- up to a place in the name, the slot consists of what is passed over and a part of the name
    have hsplit : slot.text source = (passed ++ name.take count) ++ (name.drop count ++ rest) := by
      rw [htext, List.append_assoc, ← List.append_assoc (name.take count), List.take_append_drop]
    have hlength : (passed ++ name.take count).length = passed.length + count := by
      rw [List.length_append, List.length_take]
      omega
    rw [hstart, Nat.add_assoc, isTopCode_stateAt_slot coherent h, ← hlength,
      Slot.take_drop_of_text_eq hsplit, after_append]
    exact isTopCode.after_of_ordinary fun c hc => ordinary c (List.mem_of_mem_take hc)

end Slots

/-! ## Names that are found elsewhere -/

/-- How the pattern of a grammar passes over text that it does not understand. -/
inductive Strays : Grammar → (passed rest : List Char) → Prop
  /-- To the first variable of a PHP slot. -/
  | variable {passed rest : List Char}
      (first : ∀ before after, passed ++ rest = before ++ after → Varies after →
        passed.length ≤ before.length) : Strays php passed rest
  /-- Beyond the end of a comment in JavaScript, if no name follows the comments. -/
  | comment {passed rest : List Char} (overruns : Overruns passed)
      (unnamed : Unnamed (passed ++ rest)) : Strays javascript passed rest

/-- A name that is found in a literal, a comment or a group, because the pattern strays to it. -/
def Misplaced (grammar : Grammar) (passed rest : List Char) : Prop :=
  Strays grammar passed rest ∧ ¬ (({} : ScanState).after grammar.lexis passed).IsTopCode

/-- What is passed over before a name is neutral, or the pattern strays. -/
theorem exists_findsName {grammar : Grammar} (isBuiltin : grammar ∈ builtin.map (·.2))
    {text : List Char} {found : Match} (h : grammar.parameter.search? text = some found) :
    ∃ passed name rest, FindsName grammar found text passed name rest ∧
      (grammar.lexis.IsNeutral passed ∨ Strays grammar passed (name ++ rest)) := by
  simp only [builtin, List.map_cons, List.map_nil, List.mem_cons, List.not_mem_nil, or_false]
    at isBuiltin
  rcases isBuiltin with rfl | rfl | rfl
  · obtain ⟨passed, name, rest, finds, ⟨introduction, rfl⟩ | ⟨overruns, unnamed⟩⟩ :=
      exists_findsName_javascript h
    · exact ⟨_, name, rest, finds, .inl introduction.isNeutral_text⟩
    · exact ⟨passed, name, rest, finds, .inr (.comment overruns (finds.text_eq ▸ unnamed))⟩
  · obtain ⟨passed, name, rest, finds, first⟩ := exists_findsName_php h
    exact ⟨passed, name, rest, finds, .inr (.variable (finds.text_eq ▸ first))⟩
  · obtain ⟨passed, name, rest, finds, isNeutral⟩ := exists_findsName_python h
    exact ⟨passed, name, rest, finds, .inl isNeutral⟩

/-! ## The names of a list -/

theorem exists_outcome_orDrop (length : Nat) (start stop : Int) :
    ∃ kept, (Span.orDrop length start stop).outcome = .ok kept ∧
      ∀ span ∈ kept, (span.start : Int) = start ∧ (span.stop : Int) = stop := by
  unfold Span.orDrop
  split
  next span hspan =>
    refine ⟨some span, rfl, ?_⟩
    rintro _ ⟨⟩
    unfold Span.within? at hspan
    split at hspan
    next hfits =>
      obtain rfl := Except.ok.inj hspan
      exact ⟨Int.toNat_of_nonneg hfits.1, Int.toNat_of_nonneg (by omega)⟩
    next => cases hspan
  next => exact ⟨none, rfl, by simp⟩

/-- To look for a name in a slot always succeeds, and a name that is found is one of the slot. -/
theorem exists_outcome_argumentName {grammar : Grammar} (isBuiltin : grammar ∈ builtin.map (·.2))
    (source : List Char) (length : Nat) (slot : Slot) :
    ∃ kept, (grammar.argumentName source length slot).outcome = .ok kept ∧
      ∀ span ∈ kept, ∃ found passed name rest,
        FindsName grammar found (slot.text source) passed name rest ∧
          Locates source slot span passed name rest ∧
          (grammar.lexis.IsNeutral passed ∨ Strays grammar passed (name ++ rest)) := by
  unfold Grammar.argumentName
  dsimp only
  split
  · exact ⟨none, rfl, by simp⟩
  · split
    · exact ⟨none, rfl, by simp⟩
    next found hfound =>
      obtain ⟨passed, name, rest, finds, hpassed⟩ := exists_findsName isBuiltin hfound
      obtain ⟨kept, hkept, hspans⟩ := exists_outcome_orDrop length
        (slot.start + passed.length) (slot.start + (passed.length + name.length : Nat))
      refine ⟨kept, ?_, ?_⟩
      · rw [finds.offsets_eq, Run.outcome_bind_of_ok rfl]
        exact hkept
      · intro span hspan
        obtain ⟨hstart, hstop⟩ := hspans span hspan
        exact ⟨found, passed, name, rest, finds, ⟨finds.text_eq, by omega, by omega⟩, hpassed⟩

/-- The names in slots are the names in each of them. -/
theorem exists_outcome_namesIn {grammar : Grammar} {source : List Char} {length : Nat}
    {P : Slot → Span → Prop} {slots : List Slot}
    (h : ∀ slot ∈ slots, ∃ kept, (grammar.argumentName source length slot).outcome = .ok kept ∧
      ∀ span ∈ kept, P slot span) :
    ∃ spans, (grammar.namesIn source length slots).outcome = .ok spans ∧
      ∀ span ∈ spans, ∃ slot ∈ slots, P slot span := by
  induction slots with
  | nil => exact ⟨[], rfl, by simp⟩
  | cons slot slots ih =>
    simp only [List.mem_cons, forall_eq_or_imp] at h
    obtain ⟨⟨kept, hkept, hfirst⟩, hothers⟩ := h
    obtain ⟨spans, hspans, hrest⟩ := ih hothers
    refine ⟨kept.toList ++ spans, ?_, ?_⟩
    · rw [Grammar.namesIn, Run.outcome_bind_of_ok hkept, Run.outcome_bind_of_ok hspans]
      rfl
    · intro span hspan
      rcases List.mem_append.1 hspan with hspan | hspan
      · exact ⟨slot, List.mem_cons_self, hfirst span (by simpa using hspan)⟩
      · obtain ⟨other, hother, holds⟩ := hrest span hspan
        exact ⟨other, List.mem_cons_of_mem _ hother, holds⟩

/-- The names of a parameter list are code outside of all groups of the list, but for those that are
misplaced. -/
theorem names_read_as_code_iff {grammar : Grammar} (isBuiltin : grammar ∈ builtin.map (·.2))
    (source : List Char) (length offset : Nat) :
    ∃ spans, (grammar.scanList source length offset).outcome = .ok spans ∧
      ∀ span ∈ spans, ∃ slot ∈ slots grammar.lexis source offset, ∃ passed name rest,
        Locates source slot span passed name rest ∧
          (ReadAsCode grammar.lexis source offset span ↔
            ¬ Misplaced grammar passed (name ++ rest)) := by
  have coherent := coherent_of_mem_builtin isBuiltin
  obtain ⟨spans, hspans, hslots⟩ := exists_outcome_namesIn fun slot _ =>
    exists_outcome_argumentName isBuiltin source length slot
  refine ⟨spans, hspans, fun span hspan => ?_⟩
  obtain ⟨slot, hslot, found, passed, name, rest, finds, locates, hpassed⟩ := hslots span hspan
  refine ⟨slot, hslot, passed, name, rest, locates, ?_⟩
  rw [readAsCode_iff coherent hslot locates finds.ordinary, Misplaced]
  rcases hpassed with isNeutral | strays
  · simp [isNeutral.isTopCode]
  · simp [strays]

/-- Of the two names in this list, the first one is a parameter; the second one is found in a
literal of the attribute before the other parameter. -/
theorem names_read_as_code_of_attribute :
    php ∈ builtin.map (·.2) ∧
      ∃ spans, (php.scanList "f($a, #[A('$x')] $b)".toList 20 2).outcome = .ok spans ∧
        spans.map (fun span => (span.start, span.stop,
          decide (ReadAsCode php.lexis "f($a, #[A('$x')] $b)".toList 2 span))) =
            [(2, 4, true), (11, 13, false)] ∧
        ∀ span ∈ spans, ∃ slot ∈ slots php.lexis "f($a, #[A('$x')] $b)".toList 2,
          ∃ passed name rest,
            Locates "f($a, #[A('$x')] $b)".toList slot span passed name rest ∧
              (ReadAsCode php.lexis "f($a, #[A('$x')] $b)".toList 2 span ↔
                ¬ Misplaced php passed (name ++ rest)) := by
  obtain ⟨spans, hspans, hnames⟩ :=
    names_read_as_code_iff isBuiltin_php "f($a, #[A('$x')] $b)".toList 20 2
  have hplaces : (php.scanList "f($a, #[A('$x')] $b)".toList 20 2).outcome.toOption.map
      (List.map fun span => (span.start, span.stop,
        decide (ReadAsCode php.lexis "f($a, #[A('$x')] $b)".toList 2 span))) =
      some [(2, 4, true), (11, 13, false)] := by
    decide +kernel
  rw [hspans] at hplaces
  exact ⟨isBuiltin_php, spans, hspans, Option.some.inj hplaces, hnames⟩

/-- A name is found in a literal of a PHP attribute, and one in a JavaScript parameter that is taken
apart, after a comment in it. -/
theorem names_not_read_as_code :
    ((php.header.findAll "function f(#[A('$x')] $a) \x7b\x7d".toList).map Match.stop = [11] ∧
      (php.scanList "function f(#[A('$x')] $a) \x7b\x7d".toList 28 11).outcome.toOption =
        some [⟨16, 18, by decide⟩] ∧
      ¬ ReadAsCode php.lexis "function f(#[A('$x')] $a) \x7b\x7d".toList 11
        ⟨16, 18, by decide⟩) ∧
    ((javascript.header.findAll "function f(/* a */ \x7bb, /* c */ d\x7d) \x7b\x7d".toList).map
        Match.stop = [11] ∧
      (javascript.scanList "function f(/* a */ \x7bb, /* c */ d\x7d) \x7b\x7d".toList 37
        11).outcome.toOption = some [⟨31, 32, by decide⟩] ∧
      ¬ ReadAsCode javascript.lexis "function f(/* a */ \x7bb, /* c */ d\x7d) \x7b\x7d".toList 11
        ⟨31, 32, by decide⟩) := by
  decide +kernel

end Highlighter.Signature
