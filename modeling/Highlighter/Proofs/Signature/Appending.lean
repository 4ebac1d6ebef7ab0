import Highlighter.Proofs.Signature.Slots

/-!
# Parameter lists that grow

A parameter list can be read before all of it is there. A slot counts as soon as its end has been
read, and what is found in it depends on its own text only, wherever the text of the list stops: in
a literal, after a backslash, in the middle of a marker or in a group. So more text adds names after
those that have been found, and once the list has ended it adds nothing.

## Main definitions

* `Ended` — the end of a list has been read

## Main results

* `slotsFrom_append_text` — more text adds slots, unless the list has ended
* `outcome_argumentName_congr` — what is found in a slot depends on its text only
* `emitted_append_text` — more text adds names, unless the list has ended
-/

namespace Highlighter

/-- The result of two pieces of work depends on the results of both only. -/
theorem Run.outcome_bind_congr {α β : Type} {run run' : Run α} {next next' : α → Run β}
    (first : run'.outcome = run.outcome)
    (second : ∀ value, (next' value).outcome = (next value).outcome) :
    (run' >>= next').outcome = (run >>= next).outcome := by
  cases h : run.outcome with
  | error fault => rw [outcome_bind_of_error h, outcome_bind_of_error (first.trans h)]
  | ok value => rw [outcome_bind_of_ok h, outcome_bind_of_ok (first.trans h), second]

namespace Signature

open Highlighter.Regex Highlighter.Text ScanState

/-- The end of the list that begins at an offset has been read. -/
def Ended (lexis : Lexis) (source : List Char) (offset : Nat) : Prop :=
  ∃ result ∈ ({} : ScanState).steps lexis (source.drop offset), result.1 = .finish

instance (lexis : Lexis) (source : List Char) (offset : Nat) :
    Decidable (Ended lexis source offset) :=
  inferInstanceAs (Decidable (∃ _ ∈ _, _))

/-! ## Slots -/

section Slots

variable {lexis : Lexis} {source : List Char} {offset : Nat}

/-- More text adds slots, unless the list has ended. -/
theorem slotsFrom_append_text (state : ScanState) (start : Nat) (cut : Option Nat) (offset : Nat)
    (text more : List Char) :
    slotsFrom lexis state start cut offset text <+:
        slotsFrom lexis state start cut offset (text ++ more) ∧
      ((∃ result ∈ state.steps lexis text, result.1 = .finish) →
        slotsFrom lexis state start cut offset (text ++ more) =
          slotsFrom lexis state start cut offset text) := by
  induction text generalizing state start cut offset with
  | nil => exact ⟨List.nil_prefix, by simp [steps]⟩
  | cons c text ih =>
    rw [List.cons_append, slotsFrom, slotsFrom, steps]
    obtain ⟨boundary, next⟩ := state.step lexis c
    -- unless the list ends here, its end is read later
    have hlater : boundary ≠ .finish →
        (∃ result ∈ (boundary, next) :: next.steps lexis text, result.1 = .finish) →
          ∃ result ∈ next.steps lexis text, result.1 = .finish := by
      rintro hne ⟨result, hresult, hfinish⟩
      rcases List.mem_cons.1 hresult with rfl | hresult
      · exact absurd hfinish hne
      · exact ⟨result, hresult, hfinish⟩
    cases boundary with
    | none =>
      obtain ⟨hgrows, hsame⟩ := ih next start cut (offset + 1)
      exact ⟨hgrows, fun h => hsame (hlater (by simp) h)⟩
    | default =>
      obtain ⟨hgrows, hsame⟩ := ih next start (cut <|> some offset) (offset + 1)
      exact ⟨hgrows, fun h => hsame (hlater (by simp) h)⟩
    | separator =>
      obtain ⟨hgrows, hsame⟩ := ih next (offset + 1) none (offset + 1)
      exact ⟨List.cons_prefix_cons.2 ⟨rfl, hgrows⟩,
        fun h => congrArg _ (hsame (hlater (by simp) h))⟩
    | finish => exact ⟨List.prefix_rfl, fun _ => rfl⟩

theorem slots_append_text (lexis : Lexis) (source more : List Char) (offset : Nat) :
    slots lexis source offset <+: slots lexis (source ++ more) offset ∧
      (Ended lexis source offset →
        slots lexis (source ++ more) offset = slots lexis source offset) := by
  rw [slots, slots, List.drop_append]
  exact slotsFrom_append_text _ _ _ _ _ _

/-- The text of a slot has been read. -/
theorem Slot.text_append {slot : Slot} (h : slot ∈ slots lexis source offset) (more : List Char) :
    slot.start + (slot.text source).length ≤ source.length ∧
      slot.text (source ++ more) = slot.text source := by
  obtain ⟨stop, hslot⟩ := mem_slots_iff.1 h
  have hstart := hslot.start_le
  have hstop := hslot.stop_le
  have hlength := hslot.lt_length
  have htext : (slot.text source).length ≤ slot.stop - slot.start := List.length_take_le _ _
  refine ⟨by omega, ?_⟩
  rw [Slot.text, Slot.text, List.drop_append_of_le_length (by omega),
    List.take_append_of_le_length (by rw [List.length_drop]; omega)]

end Slots

/-! ## Names -/

section Names

variable {grammar : Grammar} {source other : List Char} {length length' : Nat}

theorem outcome_orDrop_congr {start stop : Int}
    (fits : start < stop → stop ≤ length ∧ stop ≤ length') :
    (Span.orDrop length' start stop).outcome = (Span.orDrop length start stop).outcome := by
  unfold Span.orDrop Span.within?
  by_cases hproper : 0 ≤ start ∧ start < stop
  · obtain ⟨hstart, hlt⟩ := hproper
    obtain ⟨hle, hle'⟩ := fits hlt
    simp [hstart, hlt, hle, hle']
  · have hdropped : ∀ length : Nat, ¬ (0 ≤ start ∧ start < stop ∧ stop ≤ length) :=
      fun length h => hproper ⟨h.1, h.2.1⟩
    rw [dif_neg (hdropped length), dif_neg (hdropped length')]
    rfl

/-- What is found in a slot depends on its text only, as long as the text fits. -/
theorem outcome_argumentName_congr {slot : Slot} (htext : slot.text other = slot.text source)
    (fits : slot.start + (slot.text source).length ≤ length)
    (fits' : slot.start + (slot.text source).length ≤ length') :
    (grammar.argumentName other length' slot).outcome =
      (grammar.argumentName source length slot).outcome := by
  unfold Grammar.argumentName
  rw [← Slot.text, ← Slot.text, htext]
  dsimp only
  split
  · rfl
  · split
    · rfl
    next found hfound =>
      cases hoffsets : nameOffsets grammar.parameter found with
      | error fault => rfl
      | ok offsets =>
        obtain ⟨start, stop⟩ := offsets
        rw [Run.outcome_bind_of_ok rfl, Run.outcome_bind_of_ok rfl]
        apply outcome_orDrop_congr
        intro hlt
        have hwithin := within_of_nameOffsets hfound hoffsets (by omega)
        omega

theorem emittedIn_congr {slots : List Slot}
    (same : ∀ slot ∈ slots, (grammar.argumentName other length' slot).outcome =
      (grammar.argumentName source length slot).outcome) :
    grammar.emittedIn other length' slots = grammar.emittedIn source length slots := by
  induction slots with
  | nil => rfl
  | cons slot slots ih =>
    simp only [List.mem_cons, forall_eq_or_imp] at same
    rw [Grammar.emittedIn, Grammar.emittedIn, same.1, ih same.2]

theorem outcome_namesIn_congr {slots : List Slot}
    (same : ∀ slot ∈ slots, (grammar.argumentName other length' slot).outcome =
      (grammar.argumentName source length slot).outcome) :
    (grammar.namesIn other length' slots).outcome =
      (grammar.namesIn source length slots).outcome := by
  induction slots with
  | nil => rfl
  | cons slot slots ih =>
    simp only [List.mem_cons, forall_eq_or_imp] at same
    exact Run.outcome_bind_congr same.1 fun _ => Run.outcome_bind_congr (ih same.2) fun _ => rfl

/-- The names in more slots come after those in the first ones. -/
theorem emittedIn_append (first second : List Slot) :
    grammar.emittedIn source length first <+:
      grammar.emittedIn source length (first ++ second) := by
  induction first with
  | nil => exact List.nil_prefix
  | cons slot first ih =>
    rw [List.cons_append, Grammar.emittedIn, Grammar.emittedIn]
    cases (grammar.argumentName source length slot).outcome with
    | ok name => exact (List.prefix_append_right_inj _).2 ih
    | error fault => exact List.prefix_rfl

/-- More slots do not undo a fault. -/
theorem outcome_namesIn_append {first second : List Slot} {fault : Fault}
    (h : (grammar.namesIn source length first).outcome = .error fault) :
    (grammar.namesIn source length (first ++ second)).outcome = .error fault := by
  induction first with
  | nil => cases h
  | cons slot first ih =>
    rw [Grammar.namesIn, Run.outcome_bind_eq_error_iff] at h
    rw [List.cons_append, Grammar.namesIn, Run.outcome_bind_eq_error_iff]
    rcases h with h | ⟨name, hname, h⟩
    · exact .inl h
    · refine .inr ⟨name, hname, ?_⟩
      -- to put the name before the others cannot fail
      rcases Run.outcome_bind_eq_error_iff.1 h with h | ⟨names, hnames, h⟩
      · exact Run.outcome_bind_of_error (ih h) _
      · cases h

/-- Names that are returned have been found one after the other. -/
theorem emittedIn_of_outcome {slots : List Slot} {spans : List Span}
    (h : (grammar.namesIn source length slots).outcome = .ok spans) :
    grammar.emittedIn source length slots = spans := by
  induction slots generalizing spans with
  | nil => exact Except.ok.inj h
  | cons slot slots ih =>
    rw [Grammar.namesIn, Run.outcome_bind_eq_ok_iff] at h
    obtain ⟨name, hname, h⟩ := h
    rw [Run.outcome_bind_eq_ok_iff] at h
    obtain ⟨names, hnames, h⟩ := h
    obtain rfl := Except.ok.inj h
    rw [Grammar.emittedIn, hname, ih hnames]

/-- A fault is that of some slot, and the names that have been found are those in the slots before
it. -/
theorem emittedIn_of_fault {slots : List Slot} {fault : Fault}
    (h : (grammar.namesIn source length slots).outcome = .error fault) :
    ∃ before slot later, slots = before ++ slot :: later ∧
      (grammar.namesIn source length before).outcome =
        .ok (grammar.emittedIn source length slots) ∧
      (grammar.argumentName source length slot).outcome = .error fault := by
  induction slots with
  | nil => cases h
  | cons slot slots ih =>
    rw [Grammar.namesIn, Run.outcome_bind_eq_error_iff] at h
    rcases h with h | ⟨name, hname, h⟩
    · refine ⟨[], slot, slots, rfl, ?_, h⟩
      rw [Grammar.emittedIn, h]
      rfl
    · rcases Run.outcome_bind_eq_error_iff.1 h with h | ⟨names, hnames, h⟩
      · obtain ⟨before, faulty, later, rfl, found, raised⟩ := ih h
        refine ⟨slot :: before, faulty, later, rfl, ?_, raised⟩
        rw [Grammar.namesIn, Run.outcome_bind_of_ok hname, Run.outcome_bind_of_ok found,
          Grammar.emittedIn, hname]
        rfl
      · cases h

/-- More text leaves the names of a parameter list as they are and adds others after them, and none
if the list has ended. What is returned are the names that have been found one after the other.
Where a slot gives a fault, they are the names in the slots before it, and the list gives the same
fault with more text. -/
theorem emitted_append_text (grammar : Grammar) (source more : List Char) (offset : Nat) :
    (∀ spans, (grammar.scanList source source.length offset).outcome = .ok spans →
        grammar.emitted source offset = spans) ∧
      (∀ fault, (grammar.scanList source source.length offset).outcome = .error fault →
        (∃ before slot later, slots grammar.lexis source offset = before ++ slot :: later ∧
          (grammar.namesIn source source.length before).outcome =
            .ok (grammar.emitted source offset) ∧
          (grammar.argumentName source source.length slot).outcome = .error fault) ∧
        (grammar.scanList (source ++ more) (source ++ more).length offset).outcome =
          .error fault) ∧
      grammar.emitted source offset <+: grammar.emitted (source ++ more) offset ∧
      (Ended grammar.lexis source offset →
        grammar.emitted (source ++ more) offset = grammar.emitted source offset ∧
          (grammar.scanList (source ++ more) (source ++ more).length offset).outcome =
            (grammar.scanList source source.length offset).outcome) := by
  obtain ⟨⟨later, hgrows⟩, hended⟩ := slots_append_text grammar.lexis source more offset
  have hsame : ∀ slot ∈ slots grammar.lexis source offset,
      (grammar.argumentName (source ++ more) (source ++ more).length slot).outcome =
        (grammar.argumentName source source.length slot).outcome := by
    intro slot hslot
    obtain ⟨hfits, htext⟩ := Slot.text_append hslot more
    refine outcome_argumentName_congr htext hfits ?_
    rw [List.length_append]
    omega
  refine ⟨fun spans h => emittedIn_of_outcome h, ?_, ?_, ?_⟩
  · intro fault h
    refine ⟨emittedIn_of_fault h, ?_⟩
    rw [Grammar.scanList, ← outcome_namesIn_congr hsame] at h
    rw [Grammar.scanList, ← hgrows]
    exact outcome_namesIn_append h
  · rw [Grammar.emitted, Grammar.emitted, ← hgrows, ← emittedIn_congr hsame]
    exact emittedIn_append _ _
  · intro ended
    rw [Grammar.emitted, Grammar.emitted, Grammar.scanList, Grammar.scanList, hended ended]
    exact ⟨emittedIn_congr hsame, outcome_namesIn_congr hsame⟩

end Names

/-- A list that stops in a literal gives its first parameter, and with the rest of it two others.
What follows the end of the list adds nothing. -/
theorem emitted_append_text_in_literal :
    (python.emitted "(a, b=',".toList 1).map (fun span => (span.start, span.stop)) = [(1, 2)] ∧
      (python.emitted ("(a, b=',".toList ++ "', *c)".toList) 1).map
        (fun span => (span.start, span.stop)) = [(1, 2), (4, 5), (12, 13)] ∧
      python.emitted "(a, b=',".toList 1 <+:
        python.emitted ("(a, b=',".toList ++ "', *c)".toList) 1 ∧
      Ended python.lexis "(a, b=',')".toList 1 ∧
      python.emitted ("(a, b=',')".toList ++ ", c)".toList) 1 =
        python.emitted "(a, b=',')".toList 1 := by
  have ended : Ended python.lexis "(a, b=',')".toList 1 := by decide
  exact ⟨by decide +kernel, by decide +kernel,
    (emitted_append_text python "(a, b=',".toList "', *c)".toList 1).2.2.1, ended,
    ((emitted_append_text python "(a, b=',')".toList ", c)".toList 1).2.2.2 ended).1⟩

end Signature

end Highlighter
