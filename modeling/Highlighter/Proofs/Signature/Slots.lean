import Highlighter.Proofs.Regex.Captures
import Highlighter.Proofs.Signature.TopLevel

/-!
# One name for each slot

The boundaries of a parameter list delimit its slots: a slot begins with the list or after a
separator and is open until the next separator or the end of the list, and its text ends where its
default value begins, if it has one. This file says that the slots which are cut out of a list are
exactly those that its boundaries delimit, in their order, and that a slot gives at most one name,
which lies in its text. Nothing is assumed of the pattern that looks for names but that it has a
group for them.

## Main definitions

* `boundaryAt` — what the character at a place is taken for
* `Slot.IsOpen`, `Slot.Delimited` — the slots that boundaries delimit
* `Grammar.nameIn?` — the name that is found in a slot

## Main results

* `Slot.IsOpen.unique` — at each place at most one slot is open
* `mem_slots_iff` — the slots of a list are those that its boundaries delimit
* `one_name_per_slot` — the names of a list and the slots that they come from
-/

namespace Highlighter.Signature

open Highlighter.Regex ScanState

/-! ## Slots between boundaries -/

/-- What the character at a place is taken for, in a list that begins at an offset. -/
def boundaryAt (lexis : Lexis) (source : List Char) (offset place : Nat) : Option Boundary :=
  if offset ≤ place then
    source[place]?.map fun c => ((stateAt lexis source offset place).step lexis c).1
  else none

namespace Slot

/-- A slot begins with the list or after a separator. -/
def Opens (boundary : Nat → Option Boundary) (offset start : Nat) : Prop :=
  start = offset ∨ ∃ place, offset ≤ place ∧ boundary place = some .separator ∧ start = place + 1

/-- The slot that begins at `start` is open up to `here`, and so is the list. `cut` is the first
place of the slot at which a default value begins, if there is one. -/
structure IsOpen (boundary : Nat → Option Boundary) (offset start : Nat) (cut : Option Nat)
    (here : Nat) : Prop where
  opens : Opens boundary offset start
  start_le : start ≤ here
  unended : ∀ place < here, offset ≤ place → boundary place ≠ some .finish
  undivided : ∀ place < here, start ≤ place → boundary place ≠ some .separator
  cut_eq : ∀ place ∈ cut, start ≤ place ∧ place < here ∧ boundary place = some .default
  cut_first : ∀ place < cut.getD here, start ≤ place → boundary place ≠ some .default

/-- A slot that is closed at `stop`, by a separator or by the end of the list. Its text ends there
or where its default value begins. -/
def Delimited (boundary : Nat → Option Boundary) (offset : Nat) (slot : Slot) (stop : Nat) : Prop :=
  (boundary stop = some .separator ∨ boundary stop = some .finish) ∧
    ∃ cut, IsOpen boundary offset slot.start cut stop ∧ slot.stop = cut.getD stop

variable {boundary : Nat → Option Boundary} {offset start other here : Nat} {cut cut' : Option Nat}

theorem Opens.offset_le (h : Opens boundary offset start) : offset ≤ start := by
  rcases h with rfl | ⟨place, hplace, -, rfl⟩ <;> omega

/-- A slot that begins later than another one begins after a separator. -/
theorem Opens.exists_separator (h : Opens boundary offset start)
    (hother : Opens boundary offset other) (hlt : start < other) :
    ∃ place, start ≤ place ∧ boundary place = some .separator ∧ other = place + 1 := by
  have hoffset := h.offset_le
  rcases hother with rfl | ⟨place, -, hplace, rfl⟩
  · omega
  · exact ⟨place, by omega, hplace, rfl⟩

namespace IsOpen

theorem first (boundary : Nat → Option Boundary) (offset : Nat) :
    IsOpen boundary offset offset none offset where
  opens := .inl rfl
  start_le := Nat.le_refl _
  unended place hlt hle := by omega
  undivided place hlt hle := by omega
  cut_eq := by simp
  cut_first place hlt hle := by
    rw [Option.getD_none] at hlt
    omega

theorem offset_le (isOpen : IsOpen boundary offset start cut here) : offset ≤ here :=
  Nat.le_trans isOpen.opens.offset_le isOpen.start_le

/-- Neither the list nor the slot ends with a character that belongs to the slot. -/
theorem goes_on (isOpen : IsOpen boundary offset start cut here)
    (h : boundary here = some .none ∨ boundary here = some .default) :
    (∀ place < here + 1, offset ≤ place → boundary place ≠ some .finish) ∧
      ∀ place < here + 1, start ≤ place → boundary place ≠ some .separator := by
  constructor
  · intro place hlt hle
    rcases Nat.lt_succ_iff_lt_or_eq.1 hlt with hlt | rfl
    · exact isOpen.unended place hlt hle
    · rcases h with h | h <;> simp [h]
  · intro place hlt hle
    rcases Nat.lt_succ_iff_lt_or_eq.1 hlt with hlt | rfl
    · exact isOpen.undivided place hlt hle
    · rcases h with h | h <;> simp [h]

theorem pass (isOpen : IsOpen boundary offset start cut here) (h : boundary here = some .none) :
    IsOpen boundary offset start cut (here + 1) where
  opens := isOpen.opens
  start_le := Nat.le_succ_of_le isOpen.start_le
  unended := (isOpen.goes_on (.inl h)).1
  undivided := (isOpen.goes_on (.inl h)).2
  cut_eq place hplace := by
    obtain ⟨hstart, hlt, hdefault⟩ := isOpen.cut_eq place hplace
    exact ⟨hstart, Nat.lt_succ_of_lt hlt, hdefault⟩
  cut_first place hlt hle := by
    cases cut with
    | some first => exact isOpen.cut_first place hlt hle
    | none =>
      rcases Nat.lt_succ_iff_lt_or_eq.1 hlt with hlt | rfl
      · exact isOpen.cut_first place hlt hle
      · simp [h]

/-- An equals sign begins a default value, unless one has begun before. -/
theorem default (isOpen : IsOpen boundary offset start cut here)
    (h : boundary here = some .default) :
    IsOpen boundary offset start (cut <|> some here) (here + 1) where
  opens := isOpen.opens
  start_le := Nat.le_succ_of_le isOpen.start_le
  unended := (isOpen.goes_on (.inr h)).1
  undivided := (isOpen.goes_on (.inr h)).2
  cut_eq place hplace := by
    cases cut with
    | some first =>
      obtain ⟨hstart, hlt, hdefault⟩ := isOpen.cut_eq place hplace
      exact ⟨hstart, Nat.lt_succ_of_lt hlt, hdefault⟩
    | none =>
      obtain rfl : here = place := by simpa using hplace
      exact ⟨isOpen.start_le, Nat.lt_succ_self _, h⟩
  cut_first place hlt hle := by
    cases cut <;> exact isOpen.cut_first place hlt hle

/-- After a separator there is another slot. -/
theorem separate (isOpen : IsOpen boundary offset start cut here)
    (h : boundary here = some .separator) :
    IsOpen boundary offset (here + 1) none (here + 1) where
  opens := .inr ⟨here, isOpen.offset_le, h, rfl⟩
  start_le := Nat.le_refl _
  unended place hlt hle := by
    rcases Nat.lt_succ_iff_lt_or_eq.1 hlt with hlt | rfl
    · exact isOpen.unended place hlt hle
    · simp [h]
  undivided place hlt hle := by omega
  cut_eq := by simp
  cut_first place hlt hle := by
    rw [Option.getD_none] at hlt
    omega

/-- A slot that is open at a place has not been begun before another one that is open there. -/
theorem start_le_start (isOpen : IsOpen boundary offset start cut here)
    (isOpen' : IsOpen boundary offset other cut' here) : other ≤ start := by
  apply Nat.le_of_not_lt
  intro hlt
  obtain ⟨place, hle, hseparator, rfl⟩ := isOpen.opens.exists_separator isOpen'.opens hlt
  exact isOpen.undivided place isOpen'.start_le hle hseparator

/-- At each place at most one slot is open. -/
theorem unique (isOpen : IsOpen boundary offset start cut here)
    (isOpen' : IsOpen boundary offset other cut' here) : start = other ∧ cut = cut' := by
  obtain rfl : start = other :=
    Nat.le_antisymm (isOpen'.start_le_start isOpen) (isOpen.start_le_start isOpen')
  refine ⟨rfl, ?_⟩
  -- of two places at which a default value begins, none is before the first one
  have hfirst : ∀ {cut cut' : Option Nat}, IsOpen boundary offset start cut here →
      IsOpen boundary offset start cut' here → ∀ place ∈ cut, cut'.getD here ≤ place := by
    intro cut cut' isOpen isOpen' place hplace
    obtain ⟨hstart, -, hdefault⟩ := isOpen.cut_eq place hplace
    apply Nat.le_of_not_lt
    intro hlt
    exact isOpen'.cut_first place hlt hstart hdefault
  cases cut with
  | none =>
    cases cut' with
    | none => rfl
    | some place =>
      have hle := hfirst isOpen' isOpen place rfl
      have hlt := (isOpen'.cut_eq place rfl).2.1
      rw [Option.getD_none] at hle
      omega
  | some place =>
    cases cut' with
    | none =>
      have hle := hfirst isOpen isOpen' place rfl
      have hlt := (isOpen.cut_eq place rfl).2.1
      rw [Option.getD_none] at hle
      omega
    | some place' =>
      have hle := hfirst isOpen isOpen' place rfl
      have hle' := hfirst isOpen' isOpen place' rfl
      rw [Option.getD_some] at hle hle'
      rw [Nat.le_antisymm hle' hle]

end IsOpen

namespace Delimited

variable {slot next : Slot} {stop stop' : Nat}

theorem start_le (h : Delimited boundary offset slot stop) : slot.start ≤ slot.stop := by
  obtain ⟨-, cut, isOpen, hcut⟩ := h
  rw [hcut]
  cases cut with
  | none => exact isOpen.start_le
  | some place => exact (isOpen.cut_eq place rfl).1

theorem stop_le (h : Delimited boundary offset slot stop) : slot.stop ≤ stop := by
  obtain ⟨-, cut, isOpen, hcut⟩ := h
  rw [hcut]
  cases cut with
  | none => exact Nat.le_refl _
  | some place => exact Nat.le_of_lt (isOpen.cut_eq place rfl).2.1

/-- A slot is closed before the next one begins. -/
theorem stop_lt_start (h : Delimited boundary offset slot stop)
    (h' : Delimited boundary offset next stop') (hlt : slot.start < next.start) :
    stop < next.start := by
  obtain ⟨-, cut, isOpen, -⟩ := h
  obtain ⟨-, cut', isOpen', -⟩ := h'
  obtain ⟨place, hle, hseparator, hnext⟩ := isOpen.opens.exists_separator isOpen'.opens hlt
  have hclosed : ¬ place < stop := fun hplace => isOpen.undivided place hplace hle hseparator
  omega

end Delimited

/-- Of all slots, the one that is open at a place is closed there. -/
theorem IsOpen.delimited_iff {slot : Slot} (isOpen : IsOpen boundary offset start cut here)
    (closes : boundary here = some .separator ∨ boundary here = some .finish) :
    Delimited boundary offset slot here ↔ slot = ⟨start, cut.getD here⟩ := by
  constructor
  · rintro ⟨-, cut', isOpen', hcut⟩
    obtain ⟨hstart, rfl⟩ := isOpen'.unique isOpen
    rw [← hstart, ← hcut]
  · rintro rfl
    exact ⟨closes, cut, isOpen, rfl⟩

/-- A slot is closed at a place or from the next one on. -/
theorem exists_delimited_iff {slot : Slot} :
    (∃ stop, here ≤ stop ∧ Delimited boundary offset slot stop) ↔
      Delimited boundary offset slot here ∨
        ∃ stop, here + 1 ≤ stop ∧ Delimited boundary offset slot stop := by
  constructor
  · rintro ⟨stop, hle, hslot⟩
    rcases Nat.eq_or_lt_of_le hle with rfl | hlt
    · exact .inl hslot
    · exact .inr ⟨stop, hlt, hslot⟩
  · rintro (hslot | ⟨stop, hle, hslot⟩)
    · exact ⟨here, Nat.le_refl _, hslot⟩
    · exact ⟨stop, by omega, hslot⟩

/-- Cutting slots out at boundaries, from a place on. `start` and `cut` are those of the slot that
is open there. -/
inductive Cuts (boundary : Nat → Option Boundary) : (start : Nat) → (cut : Option Nat) →
    (here : Nat) → List Slot → Prop
  | done {start : Nat} {cut : Option Nat} {here : Nat}
      (h : ∀ place, here ≤ place → boundary place = none) : Cuts boundary start cut here []
  | pass {start : Nat} {cut : Option Nat} {here : Nat} {slots : List Slot}
      (h : boundary here = some .none) (rest : Cuts boundary start cut (here + 1) slots) :
      Cuts boundary start cut here slots
  | default {start : Nat} {cut : Option Nat} {here : Nat} {slots : List Slot}
      (h : boundary here = some .default)
      (rest : Cuts boundary start (cut <|> some here) (here + 1) slots) :
      Cuts boundary start cut here slots
  | separate {start : Nat} {cut : Option Nat} {here : Nat} {slots : List Slot}
      (h : boundary here = some .separator)
      (rest : Cuts boundary (here + 1) none (here + 1) slots) :
      Cuts boundary start cut here (⟨start, cut.getD here⟩ :: slots)
  | finish {start : Nat} {cut : Option Nat} {here : Nat} (h : boundary here = some .finish) :
      Cuts boundary start cut here [⟨start, cut.getD here⟩]

namespace Cuts

variable {slots : List Slot} {slot : Slot}

/-- The slots that are cut out from a place on are those that are closed there or later. -/
theorem mem_iff (cuts : Cuts boundary start cut here slots)
    (isOpen : IsOpen boundary offset start cut here) :
    slot ∈ slots ↔ ∃ stop, here ≤ stop ∧ Delimited boundary offset slot stop := by
  induction cuts with
  | done h =>
    simp only [List.not_mem_nil, false_iff, not_exists, not_and]
    intro stop hle hslot
    simp [Delimited, h stop hle] at hslot
  | pass h _ ih =>
    rw [exists_delimited_iff, or_iff_right]
    · exact ih (isOpen.pass h)
    · intro hslot
      simp [Delimited, h] at hslot
  | default h _ ih =>
    rw [exists_delimited_iff, or_iff_right]
    · exact ih (isOpen.default h)
    · intro hslot
      simp [Delimited, h] at hslot
  | separate h _ ih =>
    rw [exists_delimited_iff, isOpen.delimited_iff (.inl h), List.mem_cons, ih (isOpen.separate h)]
  | @finish _ _ here h =>
    rw [List.mem_singleton, exists_delimited_iff, isOpen.delimited_iff (.inr h), or_iff_left]
    -- no slot is open after the end of the list
    rintro ⟨stop, hlt, -, cut', isOpen', -⟩
    exact isOpen'.unended here hlt isOpen.offset_le h

/-- Slots are cut out in the order in which they begin. -/
theorem ordered (cuts : Cuts boundary start cut here slots)
    (isOpen : IsOpen boundary offset start cut here) :
    slots.Pairwise fun slot next => slot.start < next.start := by
  induction cuts with
  | done _ => exact .nil
  | pass h _ ih => exact ih (isOpen.pass h)
  | default h _ ih => exact ih (isOpen.default h)
  | @separate _ _ here _ h rest ih =>
    refine .cons ?_ (ih (isOpen.separate h))
    intro slot hslot
    obtain ⟨stop, hlt, -, cut', isOpen', -⟩ := (rest.mem_iff (isOpen.separate h)).1 hslot
    -- a slot that is closed later has begun later, for the separator is not in it
    apply Nat.lt_of_not_le
    intro hle
    exact isOpen'.undivided here hlt (Nat.le_trans hle isOpen.start_le) h
  | finish _ => exact List.pairwise_singleton _ _

end Cuts

end Slot

/-! ## The slots of a list -/

section Lists

variable {lexis : Lexis} {source : List Char} {offset start here : Nat} {cut : Option Nat}
  {slot : Slot}

/-- Reading the character at a place. -/
theorem boundaryAt_of_drop {c : Char} {rest : List Char} (hoffset : offset ≤ here)
    (h : source.drop here = c :: rest) :
    boundaryAt lexis source offset here =
        some ((stateAt lexis source offset here).step lexis c).1 ∧
      stateAt lexis source offset (here + 1) =
        ((stateAt lexis source offset here).step lexis c).2 ∧
      source.drop (here + 1) = rest := by
  have hchar : source[here]? = some c := by
    rw [← List.head?_drop, h, List.head?_cons]
  have hplace : here ≤ source.length :=
    Nat.le_of_lt (List.getElem?_eq_some_iff.1 hchar).1
  refine ⟨?_, ?_, ?_⟩
  · rw [boundaryAt, if_pos hoffset, hchar, Option.map_some]
  · rw [stateAt_add hoffset hplace, h, List.take_succ_cons, List.take_zero, after_cons, after_nil]
  · rw [← List.drop_drop, h, List.drop_one, List.tail_cons]

theorem lt_length_of_boundaryAt {place : Nat} {boundary : Boundary}
    (h : boundaryAt lexis source offset place = some boundary) : place < source.length := by
  unfold boundaryAt at h
  split at h
  · obtain ⟨c, hc, -⟩ := Option.map_eq_some_iff.1 h
    exact (List.getElem?_eq_some_iff.1 hc).1
  · cases h

theorem Slot.Delimited.lt_length {stop : Nat}
    (h : slot.Delimited (boundaryAt lexis source offset) offset stop) : stop < source.length := by
  rcases h.1 with h | h <;> exact lt_length_of_boundaryAt h

/-- The slots of a list are cut out at its boundaries. -/
theorem cuts_slotsFrom (start : Nat) (cut : Option Nat) (hoffset : offset ≤ here) :
    Slot.Cuts (boundaryAt lexis source offset) start cut here
      (slotsFrom lexis (stateAt lexis source offset here) start cut here (source.drop here)) := by
  generalize htext : source.drop here = text
  induction text generalizing here start cut with
  | nil =>
    have hend : source.length ≤ here := List.drop_eq_nil_iff.1 htext
    refine .done fun place hle => ?_
    rw [boundaryAt, List.getElem?_eq_none (Nat.le_trans hend hle), Option.map_none, ite_self]
  | cons c text ih =>
    obtain ⟨hboundary, hstate, hrest⟩ :=
      @boundaryAt_of_drop lexis source offset here c text hoffset htext
    have hnext : offset ≤ here + 1 := Nat.le_succ_of_le hoffset
    rw [slotsFrom]
    generalize (stateAt lexis source offset here).step lexis c = result at hboundary hstate
    obtain ⟨boundary, next⟩ := result
    obtain rfl : stateAt lexis source offset (here + 1) = next := hstate
    cases boundary with
    | none => exact .pass hboundary (ih start cut hnext hrest)
    | default => exact .default hboundary (ih start _ hnext hrest)
    | separator => exact .separate hboundary (ih (here + 1) none hnext hrest)
    | finish => exact .finish hboundary

theorem cuts_slots (lexis : Lexis) (source : List Char) (offset : Nat) :
    Slot.Cuts (boundaryAt lexis source offset) offset none offset (slots lexis source offset) := by
  have hstate : stateAt lexis source offset offset = {} := by
    rw [stateAt, List.drop_eq_nil_of_le (List.length_take_le _ _), after_nil]
  have hcuts := @cuts_slotsFrom lexis source offset offset offset none (Nat.le_refl _)
  rwa [hstate] at hcuts

/-- The slots of a list are those that its boundaries delimit. -/
theorem mem_slots_iff :
    slot ∈ slots lexis source offset ↔
      ∃ stop, slot.Delimited (boundaryAt lexis source offset) offset stop := by
  rw [(cuts_slots lexis source offset).mem_iff (.first _ _)]
  constructor
  · rintro ⟨stop, -, hslot⟩
    exact ⟨stop, hslot⟩
  · rintro ⟨stop, hslot⟩
    obtain ⟨-, cut, isOpen, -⟩ := id hslot
    exact ⟨stop, isOpen.offset_le, hslot⟩

end Lists

/-! ## The names of a list -/

/-- The name that is found in a slot. -/
def Grammar.nameIn? (grammar : Grammar) (source : List Char) (length : Nat) (slot : Slot) :
    Option Span :=
  (grammar.argumentName source length slot).outcome.toOption.join

/-- A name that is not empty lies in the text in which it was found. A group that took no part is at
minus one, and so is empty. -/
theorem within_of_nameOffsets {parameter : Pattern} {text : List Char} {found : Match}
    {start stop : Int} (h : parameter.search? text = some found)
    (hoffsets : nameOffsets parameter found = .ok (start, stop)) (nonempty : start < stop) :
    0 ≤ start ∧ stop ≤ text.length := by
  unfold nameOffsets at hoffsets
  split at hoffsets
  · cases hoffsets
  · split at hoffsets
    next capture hcapture =>
      obtain ⟨rfl, rfl⟩ := Prod.mk.inj (Except.ok.inj hoffsets)
      have hstop := Pattern.capture_stop_le h hcapture
      omega
    next =>
      obtain ⟨rfl, rfl⟩ := Prod.mk.inj (Except.ok.inj hoffsets)
      omega

section Names

variable {grammar : Grammar} {source : List Char} {slot : Slot}

theorem exists_nameOffsets (hasName : (grammar.parameter.groupNumber? "name").isSome)
    (found : Match) : ∃ start stop, nameOffsets grammar.parameter found = .ok (start, stop) := by
  obtain ⟨index, hindex⟩ := Option.isSome_iff_exists.1 hasName
  rw [nameOffsets, hindex]
  dsimp only
  split <;> exact ⟨_, _, rfl⟩

/-- With a group for names, to look for a name always succeeds, and a name lies in the text of its
slot. -/
theorem outcome_argumentName (hasName : (grammar.parameter.groupNumber? "name").isSome)
    (source : List Char) (length : Nat) (slot : Slot) :
    (grammar.argumentName source length slot).outcome = .ok (grammar.nameIn? source length slot) ∧
      ∀ span ∈ grammar.nameIn? source length slot,
        slot.start ≤ span.start ∧ span.stop ≤ slot.start + (slot.text source).length := by
  suffices ∃ kept, (grammar.argumentName source length slot).outcome = .ok kept ∧
      ∀ span ∈ kept, slot.start ≤ span.start ∧
        span.stop ≤ slot.start + (slot.text source).length by
    obtain ⟨kept, hkept, hspans⟩ := this
    have hname : grammar.nameIn? source length slot = kept := by
      rw [Grammar.nameIn?, hkept]
      rfl
    rw [hname]
    exact ⟨hkept, hspans⟩
  unfold Grammar.argumentName
  dsimp only
  split
  · exact ⟨none, rfl, by simp⟩
  · split
    · exact ⟨none, rfl, by simp⟩
    next found hfound =>
      obtain ⟨start, stop, hoffsets⟩ := exists_nameOffsets hasName found
      obtain ⟨kept, hkept, hspans⟩ :=
        exists_outcome_orDrop length (slot.start + start) (slot.start + stop)
      refine ⟨kept, ?_, ?_⟩
      · rw [hoffsets, Run.outcome_bind_of_ok rfl]
        exact hkept
      · intro span hspan
        obtain ⟨hstart, hstop⟩ := hspans span hspan
        have hlt := span.start_lt_stop
        have hwithin := within_of_nameOffsets hfound hoffsets (by omega)
        rw [Slot.text]
        omega

theorem outcome_namesIn (hasName : (grammar.parameter.groupNumber? "name").isSome)
    (source : List Char) (length : Nat) (slots : List Slot) :
    (grammar.namesIn source length slots).outcome =
      .ok (slots.filterMap (grammar.nameIn? source length)) := by
  induction slots with
  | nil => rfl
  | cons slot slots ih =>
    rw [Grammar.namesIn, Run.outcome_bind_of_ok (outcome_argumentName hasName source length slot).1,
      Run.outcome_bind_of_ok ih]
    cases hname : grammar.nameIn? source length slot <;> simp [hname]

/-- A name lies in the text of its slot, which is as long as it can be. -/
theorem Slot.Delimited.name_within {length offset stop : Nat} {span : Span}
    (h : slot.Delimited (boundaryAt grammar.lexis source offset) offset stop)
    (hasName : (grammar.parameter.groupNumber? "name").isSome)
    (hspan : span ∈ grammar.nameIn? source length slot) :
    slot.start ≤ span.start ∧ span.stop ≤ slot.stop := by
  obtain ⟨hstart, hstop⟩ := (outcome_argumentName hasName source length slot).2 span hspan
  have hlength : (slot.text source).length ≤ slot.stop - slot.start := List.length_take_le _ _
  have hle := h.start_le
  omega

/-- The name of another slot does not lie between the boundaries of a slot. -/
theorem Slot.Delimited.name_outside {other : Slot} {length offset stop stop' : Nat} {span : Span}
    (h : slot.Delimited (boundaryAt grammar.lexis source offset) offset stop)
    (hother : other.Delimited (boundaryAt grammar.lexis source offset) offset stop')
    (hne : other.start ≠ slot.start) (hasName : (grammar.parameter.groupNumber? "name").isSome)
    (hspan : span ∈ grammar.nameIn? source length other) :
    ¬ (slot.start ≤ span.start ∧ span.stop ≤ stop) := by
  have hwithin := hother.name_within hasName hspan
  have hstop := hother.stop_le
  have hspan := span.start_lt_stop
  rcases Nat.lt_or_gt_of_ne hne with hlt | hlt
  · have hbefore := hother.stop_lt_start h hlt
    omega
  · have hafter := h.stop_lt_start hother hlt
    omega

/-- The names of the slots stand in the order of the slots. -/
theorem names_ordered (hasName : (grammar.parameter.groupNumber? "name").isSome)
    (source : List Char) (length offset : Nat) :
    ((slots grammar.lexis source offset).filterMap (grammar.nameIn? source length)).Pairwise
      fun span next => span.stop ≤ next.start := by
  rw [List.pairwise_filterMap]
  refine ((cuts_slots grammar.lexis source offset).ordered (.first _ _)).imp_of_mem ?_
  intro slot next hslot hnext hlt span hspan span' hspan'
  obtain ⟨stop, hslot⟩ := mem_slots_iff.1 hslot
  obtain ⟨stop', hnext⟩ := mem_slots_iff.1 hnext
  have hwithin := hslot.name_within hasName hspan
  have hwithin' := hnext.name_within hasName hspan'
  have hstop := hslot.stop_le
  have hbefore := hslot.stop_lt_start hnext hlt
  omega

/-- Of all names, the one of a slot lies between its boundaries. -/
theorem Slot.Delimited.filter_names {offset stop : Nat}
    (h : slot.Delimited (boundaryAt grammar.lexis source offset) offset stop)
    (hasName : (grammar.parameter.groupNumber? "name").isSome) (length : Nat) :
    ((slots grammar.lexis source offset).filterMap (grammar.nameIn? source length)).filter
        (fun span => slot.start ≤ span.start ∧ span.stop ≤ stop) =
      (grammar.nameIn? source length slot).toList := by
  have hordered := (cuts_slots grammar.lexis source offset).ordered (.first _ _)
  have hown : (grammar.nameIn? source length slot).filter
      (fun span => slot.start ≤ span.start ∧ span.stop ≤ stop) =
        grammar.nameIn? source length slot := by
    cases hname : grammar.nameIn? source length slot with
    | none => rfl
    | some span =>
      obtain ⟨hstart, hstop⟩ := h.name_within hasName hname
      have hle : span.stop ≤ stop := Nat.le_trans hstop h.stop_le
      simp [Option.filter_some, hstart, hle]
  have hothers : ∀ other ∈ slots grammar.lexis source offset, other.start ≠ slot.start →
      (grammar.nameIn? source length other).filter
        (fun span => slot.start ≤ span.start ∧ span.stop ≤ stop) = none := by
    intro other hother hne
    obtain ⟨stop', hother⟩ := mem_slots_iff.1 hother
    rw [Option.filter_eq_none_iff]
    intro span hspan
    simpa using h.name_outside hother hne hasName hspan
  -- the slot occurs once, since slots are told apart by where they begin
  obtain ⟨before, after, hsplit⟩ := List.append_of_mem (mem_slots_iff.2 ⟨stop, h⟩)
  rw [hsplit] at hordered hothers ⊢
  obtain ⟨-, hlater, hearlier⟩ := List.pairwise_append.1 hordered
  have hbefore := fun other hother => hothers other (List.mem_append_left _ hother)
    (Nat.ne_of_lt (hearlier other hother slot List.mem_cons_self))
  have hafter := fun other hother => hothers other (by simp [hother])
    (Nat.ne_of_gt ((List.pairwise_cons.1 hlater).1 other hother))
  rw [List.filter_filterMap, List.filterMap_append, List.filterMap_cons,
    List.filterMap_eq_nil_iff.2 hbefore, List.filterMap_eq_nil_iff.2 hafter, hown]
  cases grammar.nameIn? source length slot <;> rfl

/-- The names of a parameter list stand in ascending order and do not overlap. Each lies in the text
of a slot that the boundaries of the list delimit, before the default value of the slot. Between its
boundaries, such a slot has the one name that is found in it, or none. -/
theorem one_name_per_slot (hasName : (grammar.parameter.groupNumber? "name").isSome)
    (source : List Char) (length offset : Nat) :
    ∃ spans, (grammar.scanList source length offset).outcome = .ok spans ∧
      spans.Pairwise (fun span next => span.stop ≤ next.start) ∧
      (∀ span ∈ spans, span.stop ≤ source.length ∧
        ∃ (slot : Slot) (stop : Nat),
          slot.Delimited (boundaryAt grammar.lexis source offset) offset stop ∧
            slot.start ≤ span.start ∧ span.stop ≤ slot.stop) ∧
      ∀ (slot : Slot) (stop : Nat),
        slot.Delimited (boundaryAt grammar.lexis source offset) offset stop →
          spans.filter (fun span => slot.start ≤ span.start ∧ span.stop ≤ stop) =
            (grammar.nameIn? source length slot).toList := by
  refine ⟨_, outcome_namesIn hasName source length _, names_ordered hasName source length offset,
    ?_, fun slot stop hslot => hslot.filter_names hasName length⟩
  intro span hspan
  obtain ⟨slot, hslot, hspan⟩ := List.mem_filterMap.1 hspan
  obtain ⟨stop, hslot⟩ := mem_slots_iff.1 hslot
  have hwithin := hslot.name_within hasName hspan
  have hstop := hslot.stop_le
  have hlength := hslot.lt_length
  exact ⟨by omega, slot, stop, hslot, hwithin⟩

end Names

/-- A grammar whose group for names need not take part, and may match nothing. -/
def optionalNames : Grammar where
  name := "optional"
  header := .constant "\\("
  parameter := .constant "\\d|(?P<name>[a-z]*)"
  lexis := { quotes := ['"'] }

/-- Of the four slots of this list, the second one has no name, and that of the third one is empty.
The name of the first one ends where its default value begins. -/
theorem one_name_per_slot_of_optional_names :
    (optionalNames.parameter.groupNumber? "name").isSome ∧
      slots optionalNames.lexis "(a=b,1,-,c)".toList 1 = [⟨1, 2⟩, ⟨5, 6⟩, ⟨7, 8⟩, ⟨9, 10⟩] ∧
      ∃ spans, (optionalNames.scanList "(a=b,1,-,c)".toList 11 1).outcome = .ok spans ∧
        spans.map (fun span => (span.start, span.stop)) = [(1, 2), (9, 10)] ∧
        spans.Pairwise (fun span next => span.stop ≤ next.start) ∧
        ∀ (slot : Slot) (stop : Nat),
          slot.Delimited (boundaryAt optionalNames.lexis "(a=b,1,-,c)".toList 1) 1 stop →
            spans.filter (fun span => slot.start ≤ span.start ∧ span.stop ≤ stop) =
              (optionalNames.nameIn? "(a=b,1,-,c)".toList 11 slot).toList := by
  have hasName : (optionalNames.parameter.groupNumber? "name").isSome := by decide +kernel
  obtain ⟨spans, hspans, hordered, -, hslots⟩ :=
    one_name_per_slot hasName "(a=b,1,-,c)".toList 11 1
  have hplaces : (optionalNames.scanList "(a=b,1,-,c)".toList 11 1).outcome.toOption.map
      (List.map fun span => (span.start, span.stop)) = some [(1, 2), (9, 10)] := by
    decide +kernel
  rw [hspans] at hplaces
  exact ⟨hasName, by decide, spans, hspans, Option.some.inj hplaces, hordered, hslots⟩

end Highlighter.Signature
