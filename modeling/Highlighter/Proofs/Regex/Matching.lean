import Highlighter.Regex.Match

/-!
# What a match consists of

The matcher tries the ways in which an expression can match one after the other, each followed by
the rest of the pattern. This file says which states an expression can lead to at all, and that the
matcher only ever goes on from one of these. It follows that a search finds nothing where no place
fits.

The other direction needs the order in which the ways are tried. It is stated for the expressions
that decide it: a repeated set of characters takes as many as there are, and an optional expression
is taken if what follows it succeeds.

## Main definitions

* `Node.Leads` — the states that an expression can lead to
* `Node.Prefers` — the state that an expression tries first, before all others
* `Cursor.between` — the place between two texts

## Main results

* `Node.exists_leads_of_run` — the matcher goes on from a state that the expression leads to
* `Node.prefers_repeated_chars` — a repeated set takes all characters that it can
* `Node.search?_eq_none` — a search fails if the expression leads nowhere from any place
-/

namespace Highlighter.Regex

/-! ## Places -/

namespace Cursor

/-- The place between two texts; of the first one, the nearest character comes first. -/
def between (before after : List Char) : Cursor :=
  ⟨before, after, before.length, after.length, (start before).remaining_eq,
    (start after).remaining_eq⟩

theorem eq_between (cursor : Cursor) : cursor = between cursor.before cursor.after := by
  obtain ⟨before, after, offset, remaining, rfl, rfl⟩ := cursor
  rfl

theorem start_eq_between (text : List Char) : start text = between [] text :=
  rfl

@[simp]
theorem before_between (before after : List Char) : (between before after).before = before :=
  rfl

@[simp]
theorem after_between (before after : List Char) : (between before after).after = after :=
  rfl

@[simp]
theorem offset_between (before after : List Char) :
    (between before after).offset = before.length :=
  rfl

@[simp]
theorem remaining_between (before after : List Char) :
    (between before after).remaining = after.length :=
  rfl

@[simp]
theorem next?_between_cons (before after : List Char) (c : Char) :
    (between before (c :: after)).next? = some (c, between (c :: before) after) :=
  rfl

@[simp]
theorem next?_between_nil (before : List Char) : (between before []).next? = none :=
  rfl

end Cursor

/-! ## Where an expression can lead -/

/-- A number of steps of a relation, one after the other. -/
inductive Iterates (step : State → State → Prop) : Nat → State → State → Prop
  | zero (state : State) : Iterates step 0 state state
  | succ {count : Nat} {state middle reached : State} (first : step state middle)
      (others : Iterates step count middle reached) : Iterates step (count + 1) state reached

theorem Iterates.trans {step : State → State → Prop} {first second : Nat}
    {state middle reached : State} (h : Iterates step first state middle)
    (h' : Iterates step second middle reached) : Iterates step (first + second) state reached := by
  induction h with
  | zero => simpa using h'
  | @succ count _ _ _ hstep _ ih =>
    rw [Nat.add_right_comm]
    exact .succ hstep (ih h')

/-- The states that an expression can lead to, whatever is preferred among them. -/
def Node.Leads : Node → State → State → Prop
  | .empty, state, reached => reached = state
  | .chars set, state, reached => ∃ c cursor,
      state.cursor.next? = some (c, cursor) ∧ set.holds c ∧ reached = { state with cursor }
  | .anchor condition, state, reached => condition.holds state.cursor ∧ reached = state
  | .seq first second, state, reached =>
    ∃ middle, first.Leads state middle ∧ second.Leads middle reached
  | .alt first second, state, reached => first.Leads state reached ∨ second.Leads state reached
  | .group index body, state, reached =>
    ∃ inner, body.Leads state inner ∧ reached = inner.record index state.cursor
  | .backref index folding, state, reached => ∃ capture cursor,
      state.capture? index = some capture ∧
        state.cursor.consume? folding capture.text = some cursor ∧ reached = { state with cursor }
  | .repeated least most _ body, state, reached => ∃ extra,
      (∀ limit ∈ most, extra ≤ limit - least) ∧
        Iterates body.Leads (least + extra) state reached
  | .ahead negated body, state, reached =>
    if negated then body.run some state = none ∧ reached = state
    else ∃ inner, body.Leads state inner ∧ reached = { inner with cursor := state.cursor }
  | .behind width negated body, state, reached =>
    if negated then
      ((state.cursor.back? width).bind fun cursor => body.run some { state with cursor }) = none ∧
        reached = state
    else ∃ cursor inner, state.cursor.back? width = some cursor ∧
      body.Leads { state with cursor } inner ∧ reached = { inner with cursor := state.cursor }
  | .atomic body, state, reached => body.Leads state reached
  | .cond index present absent, state, reached =>
    if (state.capture? index).isSome then present.Leads state reached
    else absent.Leads state reached

section Sound

variable {step : Rest → Rest} {leads : State → State → Prop} {rest : Rest} {state final : State}

theorem exists_iterates_of_times
    (sound : ∀ rest state final, step rest state = some final →
      ∃ reached, leads state reached ∧ rest reached = some final)
    {count : Nat} (h : times step rest count state = some final) :
    ∃ reached, Iterates leads count state reached ∧ rest reached = some final := by
  induction count generalizing state with
  | zero => exact ⟨state, .zero state, h⟩
  | succ count ih =>
    obtain ⟨middle, hfirst, hrest⟩ := sound _ _ _ h
    obtain ⟨reached, hothers, hreached⟩ := ih hrest
    exact ⟨reached, .succ hfirst hothers, hreached⟩

theorem exists_iterates_of_further
    (sound : ∀ rest state final, step rest state = some final →
      ∃ reached, leads state reached ∧ rest reached = some final)
    {greedy : Bool} {count : Nat} {previous : Option Nat}
    (h : further step greedy rest count previous state = some final) :
    ∃ extra reached, extra ≤ count ∧ Iterates leads extra state reached ∧
      rest reached = some final := by
  have hstop : rest state = some final → ∃ extra reached, extra ≤ count ∧
      Iterates leads extra state reached ∧ rest reached = some final :=
    fun h => ⟨0, state, Nat.zero_le _, .zero state, h⟩
  induction count generalizing state previous with
  | zero => exact hstop h
  | succ count ih =>
    -- one more iteration is made only if the rest did not succeed or has not been tried
    have hstep : step (further step greedy rest count (some state.cursor.offset)) state =
        some final → ∃ extra reached, extra ≤ count + 1 ∧ Iterates leads extra state reached ∧
          rest reached = some final := by
      intro h
      obtain ⟨middle, hfirst, hmiddle⟩ := sound _ _ _ h
      obtain ⟨extra, reached, hle, hothers, hreached⟩ := ih hmiddle
        fun h => ⟨0, middle, Nat.zero_le _, .zero middle, h⟩
      exact ⟨extra + 1, reached, Nat.succ_le_succ hle, .succ hfirst hothers, hreached⟩
    rw [further] at h
    split at h
    · exact hstop h
    · split at h
      · rw [Option.orElse_eq_or, Option.or_eq_some_iff] at h
        rcases h with h | ⟨-, h⟩
        · exact hstep h
        · exact hstop h
      · rw [Option.orElse_eq_or, Option.or_eq_some_iff] at h
        rcases h with h | ⟨-, h⟩
        · exact hstop h
        · exact hstep h

end Sound

theorem furtherBound_le {least : Nat} {most : Option Nat} {state : State} :
    ∀ limit ∈ most, furtherBound least most state ≤ limit - least := by
  rintro limit hlimit
  obtain rfl : most = some limit := hlimit
  exact Nat.min_le_left _ _

/-- The matcher goes on from a state that the expression leads to. -/
theorem Node.exists_leads_of_run (node : Node) {rest : Rest} {state final : State}
    (h : node.run rest state = some final) :
    ∃ reached, node.Leads state reached ∧ rest reached = some final := by
  induction node generalizing rest state final with
  | empty => exact ⟨state, rfl, h⟩
  | chars set =>
    rw [run] at h
    split at h
    next c cursor hnext =>
      split at h
      next hholds => exact ⟨_, ⟨c, cursor, hnext, hholds, rfl⟩, h⟩
      next => cases h
    next => cases h
  | anchor condition =>
    rw [run] at h
    split at h
    next hholds => exact ⟨state, ⟨hholds, rfl⟩, h⟩
    next => cases h
  | seq first second ihFirst ihSecond =>
    obtain ⟨middle, hfirst, hmiddle⟩ := ihFirst h
    obtain ⟨reached, hsecond, hreached⟩ := ihSecond hmiddle
    exact ⟨reached, ⟨middle, hfirst, hsecond⟩, hreached⟩
  | alt first second ihFirst ihSecond =>
    rw [run, Option.orElse_eq_or, Option.or_eq_some_iff] at h
    rcases h with h | ⟨-, h⟩
    · obtain ⟨reached, hfirst, hreached⟩ := ihFirst h
      exact ⟨reached, Or.inl hfirst, hreached⟩
    · obtain ⟨reached, hsecond, hreached⟩ := ihSecond h
      exact ⟨reached, Or.inr hsecond, hreached⟩
  | group index body ih =>
    obtain ⟨inner, hinner, hrest⟩ := ih h
    exact ⟨_, ⟨inner, hinner, rfl⟩, hrest⟩
  | backref index folding =>
    rw [run] at h
    split at h
    next capture hcapture =>
      split at h
      next cursor hconsume => exact ⟨_, ⟨capture, cursor, hcapture, hconsume, rfl⟩, h⟩
      next => cases h
    next => cases h
  | repeated least most greed body ih =>
    -- the least number of iterations comes first, and then those that are made if possible
    have hmore : ∀ {greedy rest state final},
        times body.run (fun reached =>
          further body.run greedy rest (furtherBound least most reached) none reached)
          least state = some final →
        ∃ reached, (Node.repeated least most greed body).Leads state reached ∧
          rest reached = some final := by
      intro greedy rest state final h
      have sound : ∀ rest state final, body.run rest state = some final →
          ∃ reached, body.Leads state reached ∧ rest reached = some final := fun _ _ _ h => ih h
      obtain ⟨middle, hleast, hmiddle⟩ := exists_iterates_of_times sound h
      obtain ⟨extra, reached, hle, hextra, hreached⟩ := exists_iterates_of_further sound hmiddle
      exact ⟨reached, ⟨extra, fun limit hlimit => Nat.le_trans hle (furtherBound_le limit hlimit),
        hleast.trans hextra⟩, hreached⟩
    cases greed with
    | greedy => exact hmore h
    | lazy => exact hmore h
    | possessive =>
      simp only [run] at h
      split at h
      next inner hinner =>
        obtain ⟨reached, hleads, hreached⟩ := hmore hinner
        obtain rfl := Option.some.inj hreached
        exact ⟨reached, hleads, h⟩
      next => cases h
  | ahead negated body ih =>
    rw [run] at h
    cases hbody : body.run some state with
    | none =>
      cases negated with
      | true => exact ⟨state, by simp [Leads, hbody], by simpa [hbody] using h⟩
      | false => simp [hbody] at h
    | some inner =>
      cases negated with
      | true => simp [hbody] at h
      | false =>
        obtain ⟨reached, hleads, hreached⟩ := ih hbody
        obtain rfl := Option.some.inj hreached
        exact ⟨_, ⟨reached, hleads, rfl⟩, by simpa [hbody] using h⟩
  | behind width negated body ih =>
    rw [run] at h
    cases hbody : (state.cursor.back? width).bind fun cursor =>
        body.run some { state with cursor } with
    | none =>
      cases negated with
      | true => exact ⟨state, ⟨hbody, rfl⟩, by simpa [hbody] using h⟩
      | false => simp [hbody] at h
    | some inner =>
      cases negated with
      | true => simp [hbody] at h
      | false =>
        obtain ⟨cursor, hback, hrun⟩ := Option.bind_eq_some_iff.1 hbody
        obtain ⟨reached, hleads, hreached⟩ := ih hrun
        obtain rfl := Option.some.inj hreached
        exact ⟨_, ⟨cursor, reached, hback, hleads, rfl⟩, by simpa [hbody] using h⟩
  | atomic body ih =>
    rw [run] at h
    split at h
    next inner hinner =>
      obtain ⟨reached, hleads, hreached⟩ := ih hinner
      obtain rfl := Option.some.inj hreached
      exact ⟨reached, hleads, h⟩
    next => cases h
  | cond index present absent ihPresent ihAbsent =>
    rw [run] at h
    simp only [Leads]
    split at h
    next hsome => simpa [hsome] using ihPresent h
    next hnone => simpa [hnone] using ihAbsent h

theorem Node.run_eq_none (node : Node) {state : State}
    (nowhere : ∀ reached, ¬ node.Leads state reached) (rest : Rest) :
    node.run rest state = none := by
  rw [Option.eq_none_iff_forall_ne_some]
  intro final h
  obtain ⟨reached, hleads, -⟩ := node.exists_leads_of_run h
  exact nowhere reached hleads

namespace Node

variable {node first second body : Node} {set : CharSet} {state reached : State}
  {least : Nat} {most : Option Nat} {greed : Greed}

/-- A set of characters leads past one of them. -/
theorem exists_of_leads_chars (h : (chars set).Leads state reached) :
    ∃ c, state.cursor.after = c :: reached.cursor.after ∧
      reached.cursor.before = c :: state.cursor.before ∧ set.holds c := by
  obtain ⟨c, cursor, hnext, hholds, rfl⟩ := h
  rw [state.cursor.eq_between] at hnext
  cases hafter : state.cursor.after with
  | nil => simp [hafter] at hnext
  | cons d after =>
    rw [hafter, Cursor.next?_between_cons] at hnext
    obtain ⟨rfl, rfl⟩ := Prod.mk.inj (Option.some.inj hnext)
    exact ⟨d, rfl, rfl, hholds⟩

/-- A repeated set of characters leads past some of them. -/
theorem exists_of_leads_repeated_chars
    (h : (repeated least most greed (chars set)).Leads state reached) :
    ∃ taken, state.cursor.after = taken ++ reached.cursor.after ∧ (∀ c ∈ taken, set.holds c) ∧
      least ≤ taken.length := by
  obtain ⟨extra, -, h⟩ := h
  suffices ∀ {count state}, Iterates (chars set).Leads count state reached →
      ∃ taken, state.cursor.after = taken ++ reached.cursor.after ∧ (∀ c ∈ taken, set.holds c) ∧
        count = taken.length by
    obtain ⟨taken, hafter, hholds, hlength⟩ := this h
    exact ⟨taken, hafter, hholds, by omega⟩
  clear h
  intro count state h
  induction h with
  | zero state => exact ⟨[], rfl, by simp, rfl⟩
  | succ hfirst _ ih =>
    obtain ⟨c, hafter, -, hholds⟩ := exists_of_leads_chars hfirst
    obtain ⟨taken, htaken, hall, hlength⟩ := ih
    exact ⟨c :: taken, by rw [hafter, htaken, List.cons_append], by simpa [hholds] using hall,
      by simp [hlength]⟩

/-- An optional expression is skipped or taken. -/
theorem eq_or_leads_of_leads_optional (h : (repeated 0 (some 1) greed body).Leads state reached) :
    reached = state ∨ body.Leads state reached := by
  obtain ⟨extra, hlimit, h⟩ := h
  have hextra : extra ≤ 1 := hlimit 1 rfl
  rw [Nat.zero_add] at h
  cases h with
  | zero => exact Or.inl rfl
  | @succ count _ middle _ hfirst hothers =>
    obtain rfl : count = 0 := by omega
    cases hothers
    exact Or.inr hfirst

end Node

/-! ## The way that is tried first -/

/-- Of all ways in which an expression can match, the first one leads to the given state: whatever
follows, if it succeeds from there, then no other way is tried. -/
def Node.Prefers (node : Node) (state reached : State) : Prop :=
  ∀ (rest : Rest) (final : State), rest reached = some final → node.run rest state = some final

section Prefers

open Cursor (between)

variable {node first second body : Node} {set : CharSet} {state middle reached : State}
  {least : Nat} {most : Option Nat} {before after taken : List Char}
  {captures : List (Nat × Capture)}

namespace Node

theorem run_chars_cons {c : Char} (holds : set.holds c) (rest : Rest) :
    (chars set).run rest ⟨between before (c :: after), captures⟩ =
      rest ⟨between (c :: before) after, captures⟩ := by
  simp [run, holds]

theorem prefers_chars {c : Char} (holds : set.holds c) :
    (chars set).Prefers ⟨between before (c :: after), captures⟩
      ⟨between (c :: before) after, captures⟩ :=
  fun rest _ h => (run_chars_cons holds rest).trans h

theorem prefers_empty : empty.Prefers state state :=
  fun _ _ h => h

theorem prefers_anchor {condition : Anchor} (holds : condition.holds state.cursor) :
    (anchor condition).Prefers state state := by
  intro rest final h
  simp [run, holds, h]

theorem run_repeated_greedy (rest : Rest) :
    (repeated least most .greedy body).run rest state =
      times body.run
        (fun reached => further body.run true rest (furtherBound least most reached) none reached)
        least state :=
  rfl

namespace Prefers

theorem seq (hfirst : first.Prefers state middle) (hsecond : second.Prefers middle reached) :
    (Node.seq first second).Prefers state reached :=
  fun rest final h => hfirst _ final (hsecond rest final h)

theorem assoc {third : Node} (h : (Node.seq (.seq first second) third).Prefers state reached) :
    (Node.seq first (.seq second third)).Prefers state reached :=
  h

theorem alt (hfirst : first.Prefers state reached) :
    (Node.alt first second).Prefers state reached := by
  intro rest final h
  simp [run, hfirst rest final h]

theorem alt_of_nowhere (nowhere : ∀ reached, ¬ first.Leads state reached)
    (hsecond : second.Prefers state reached) : (Node.alt first second).Prefers state reached := by
  intro rest final h
  simp [run, first.run_eq_none nowhere, hsecond rest final h]

theorem group {index : Nat} (hbody : body.Prefers state reached) :
    (Node.group index body).Prefers state (reached.record index state.cursor) :=
  fun _ final h => hbody _ final h

theorem optional (hbody : body.Prefers state reached) :
    (repeated 0 (some 1) .greedy body).Prefers state reached := by
  intro rest final h
  simp [run_repeated_greedy, times, further, furtherBound, hbody rest final h]

end Prefers

/-- A repetition that need not be made is skipped where it cannot be made. -/
theorem prefers_skip (nowhere : ∀ reached, ¬ body.Leads state reached) :
    (repeated 0 most .greedy body).Prefers state state := by
  intro rest _ h
  rw [run_repeated_greedy, times]
  cases furtherBound 0 most state with
  | zero => exact h
  | succ count => simp [further, body.run_eq_none nowhere, h]

theorem times_chars (rest : Rest) (holds : ∀ c ∈ taken, set.holds c) :
    times (chars set).run rest taken.length ⟨between before (taken ++ after), captures⟩ =
      rest ⟨between (taken.reverse ++ before) after, captures⟩ := by
  induction taken generalizing before with
  | nil => rfl
  | cons c taken ih =>
    simp only [List.mem_cons, forall_eq_or_imp] at holds
    rw [List.length_cons, times, List.cons_append, run_chars_cons holds.1, ih holds.2,
      List.reverse_cons, List.append_assoc, List.singleton_append]

/-- A greedy repetition takes all pieces that its body prefers, if there is none after them. -/
theorem further_pieces {pieces : List (List Char)}
    (each : ∀ piece ∈ pieces, piece ≠ [] ∧ ∀ before after,
      body.Prefers ⟨between before (piece ++ after), captures⟩
        ⟨between (piece.reverse ++ before) after, captures⟩)
    (nowhere : ∀ before reached, ¬ body.Leads ⟨between before after, captures⟩ reached)
    {rest : Rest}
    {count : Nat} (enough : pieces.length < count) {previous : Option Nat}
    (moved : ∀ offset ∈ previous, offset < before.length) {final : State}
    (h : rest ⟨between (pieces.flatten.reverse ++ before) after, captures⟩ = some final) :
    further body.run true rest count previous ⟨between before (pieces.flatten ++ after), captures⟩ =
      some final := by
  induction pieces generalizing before count previous with
  | nil =>
    obtain ⟨count, rfl⟩ : ∃ n, count = n + 1 := ⟨count - 1, by simp at enough; omega⟩
    simpa [further, body.run_eq_none (nowhere before)] using h
  | cons piece pieces ih =>
    obtain ⟨count, rfl⟩ : ∃ n, count = n + 1 := ⟨count - 1, by simp at enough; omega⟩
    simp only [List.mem_cons, forall_eq_or_imp] at each
    obtain ⟨⟨nonempty, prefers⟩, others⟩ := each
    have hmoved : previous ≠ some before.length := fun h => absurd (moved _ h) (Nat.lt_irrefl _)
    have hlonger : ∀ offset ∈ some before.length, offset < (piece.reverse ++ before).length := by
      have := List.length_pos_iff.2 nonempty
      simp
      omega
    have hmore := @ih (piece.reverse ++ before) others count (by simpa using enough)
      (some before.length) hlonger (by simpa using h)
    have hfirst := prefers before (pieces.flatten ++ after) _ final hmore
    simp [further, hmoved, hfirst]

theorem further_chars (rest : Rest) (holds : ∀ c ∈ taken, set.holds c)
    (maximal : ∀ c ∈ after.head?, ¬ set.holds c) {count : Nat} (enough : taken.length < count)
    {previous : Option Nat} (moved : ∀ offset ∈ previous, offset < before.length) {final : State}
    (h : rest ⟨between (taken.reverse ++ before) after, captures⟩ = some final) :
    further (chars set).run true rest count previous ⟨between before (taken ++ after), captures⟩ =
      some final := by
  -- each character is a piece of its own
  have hflatten : (taken.map fun c => [c]).flatten = taken := by
    simp [← List.flatMap_def]
  have each : ∀ piece ∈ taken.map fun c => [c], piece ≠ [] ∧ ∀ before after,
      (chars set).Prefers ⟨between before (piece ++ after), captures⟩
        ⟨between (piece.reverse ++ before) after, captures⟩ := by
    intro piece hpiece
    obtain ⟨c, hc, rfl⟩ := List.mem_map.1 hpiece
    exact ⟨by simp, fun before after => prefers_chars (holds c hc)⟩
  have nowhere : ∀ before reached,
      ¬ (chars set).Leads ⟨between before after, captures⟩ reached := by
    rintro before reached ⟨c, cursor, hnext, hc, -⟩
    cases after with
    | nil => simp at hnext
    | cons d after =>
      simp only [Cursor.next?_between_cons, Option.some.injEq, Prod.mk.injEq] at hnext
      obtain ⟨rfl, -⟩ := hnext
      exact maximal d rfl hc
  rw [← hflatten] at h ⊢
  exact further_pieces each nowhere (by simpa using enough) moved h

/-- A repeated set takes all characters that it can. -/
theorem prefers_repeated_chars (taken after : List Char) (holds : ∀ c ∈ taken, set.holds c)
    (enough : least ≤ taken.length) (maximal : ∀ c ∈ after.head?, ¬ set.holds c) :
    (repeated least none .greedy (chars set)).Prefers ⟨between before (taken ++ after), captures⟩
      ⟨between (taken.reverse ++ before) after, captures⟩ := by
  intro rest final h
  -- the least number of characters is taken first, and then all others
  obtain ⟨needed, others, rfl, rfl⟩ : ∃ needed others : List Char,
      taken = needed ++ others ∧ needed.length = least :=
    ⟨taken.take least, taken.drop least, by simp, by simp [enough]⟩
  simp only [List.mem_append] at holds
  rw [run_repeated_greedy, List.append_assoc, times_chars _ fun c hc => holds c (Or.inl hc)]
  have hbound : others.length < furtherBound needed.length none
      ⟨between (needed.reverse ++ before) (others ++ after), captures⟩ := by
    simp only [furtherBound, Cursor.remaining_between, List.length_append]
    omega
  exact further_chars rest (fun c hc => holds c (Or.inr hc)) maximal hbound (by simp)
    (by simpa using h)

end Node

end Prefers

/-! ## Fixed texts -/

namespace Node

open Cursor (between)

variable {state reached : State} {nodes : List Node}

/-- The expression for one character. -/
def letter (c : Char) : Node :=
  .chars { items := [.single c.toNat] }

theorem holds_single {c d : Char} : CharSet.holds { items := [.single d.toNat] } c ↔ c = d := by
  simp [CharSet.holds, CharItem.holds, Folding.same, Folding.lower, Char.toNat_inj]

theorem ofList_cons (node : Node) (nonempty : nodes ≠ []) :
    ofList (node :: nodes) = .seq node (ofList nodes) := by
  cases nodes with
  | nil => exact absurd rfl nonempty
  | cons second nodes => rfl

/-- A text is matched first, and then what follows it. -/
theorem prefers_letters (word : List Char) {before after : List Char}
    {captures : List (Nat × Capture)} (nonempty : nodes ≠ [])
    (h : (ofList nodes).Prefers ⟨between (word.reverse ++ before) after, captures⟩ reached) :
    (ofList (word.map letter ++ nodes)).Prefers ⟨between before (word ++ after), captures⟩
      reached := by
  induction word generalizing before with
  | nil => exact h
  | cons c word ih =>
    rw [List.map_cons, List.cons_append, ofList_cons _ (by simp [nonempty])]
    exact .seq (prefers_chars (holds_single.2 rfl)) (ih (by simpa using h))

/-- A text leads past itself, and then where that leads to which follows it. -/
theorem exists_of_leads_letters (word : List Char) (nonempty : nodes ≠ [])
    (h : (ofList (word.map letter ++ nodes)).Leads state reached) :
    ∃ middle, state.cursor.after = word ++ middle.cursor.after ∧
      middle.cursor.before = word.reverse ++ state.cursor.before ∧
      (ofList nodes).Leads middle reached := by
  induction word generalizing state with
  | nil => exact ⟨state, rfl, rfl, h⟩
  | cons c word ih =>
    rw [List.map_cons, List.cons_append, ofList_cons _ (by simp [nonempty])] at h
    obtain ⟨next, hletter, hrest⟩ := h
    obtain ⟨d, hafter, hbefore, hholds⟩ := exists_of_leads_chars hletter
    obtain rfl := holds_single.1 hholds
    obtain ⟨middle, hmiddle, hpassed, hleads⟩ := ih hrest
    exact ⟨middle, by simp [hafter, hmiddle], by simp [hpassed, hbefore], hleads⟩

end Node

/-! ## Searching -/

namespace Node

variable {node : Node} {reached : State}

theorem matchAt?_eq_none {cursor : Cursor} (nowhere : ∀ reached, ¬ node.Leads ⟨cursor, []⟩ reached)
    (moving : Bool) : node.matchAt? moving cursor = none := by
  simp [matchAt?, node.run_eq_none nowhere]

/-- A match at the place itself comes first. -/
theorem search?_of_matchAt? {cursor : Cursor} {moving : Bool} {found : Match}
    (h : node.matchAt? moving cursor = some found) : node.search? moving cursor = some found := by
  rw [search?]
  cases cursor.remaining with
  | zero => exact h
  | succ count => simp [searchWithin?, h]

theorem matchAt?_of_prefers {cursor : Cursor} (prefers : node.Prefers ⟨cursor, []⟩ reached) :
    node.matchAt? false cursor = some ⟨cursor.offset, reached⟩ := by
  simp [matchAt?, prefers some reached rfl]

theorem search?_of_prefers {cursor : Cursor} (prefers : node.Prefers ⟨cursor, []⟩ reached) :
    node.search? false cursor = some ⟨cursor.offset, reached⟩ :=
  search?_of_matchAt? (matchAt?_of_prefers prefers)

/-- A place without a match is passed over. -/
theorem search?_of_matchAt?_eq_none {before after : List Char} {c : Char} {moving : Bool}
    (h : node.matchAt? moving (.between before (c :: after)) = none) :
    node.search? moving (.between before (c :: after)) =
      node.search? false (.between (c :: before) after) := by
  simp [search?, searchWithin?, h]

/-- A place from which the expression leads nowhere is passed over. -/
theorem search?_cons {before after : List Char} {c : Char}
    (nowhere : ∀ reached, ¬ node.Leads ⟨.between before (c :: after), []⟩ reached) (moving : Bool) :
    node.search? moving (.between before (c :: after)) =
      node.search? false (.between (c :: before) after) :=
  search?_of_matchAt?_eq_none (matchAt?_eq_none nowhere moving)

/-- A search fails if the expression leads nowhere from any place. -/
theorem search?_eq_none {before after : List Char}
    (nowhere : ∀ before' after' reached, after' <:+ after →
      ¬ node.Leads ⟨.between before' after', []⟩ reached) (moving : Bool) :
    node.search? moving (.between before after) = none := by
  induction after generalizing before moving with
  | nil => exact matchAt?_eq_none (nowhere before [] · List.suffix_rfl) moving
  | cons c after ih =>
    rw [search?_cons (nowhere before (c :: after) · List.suffix_rfl)]
    refine ih (fun before' after' reached h => ?_) false
    exact nowhere before' after' reached (h.trans (List.suffix_cons c after))

end Node

/-- A match after which there is no other one is the only one. -/
theorem Pattern.findAll_eq_singleton {pattern : Pattern} {text : List Char} {found : Match}
    (hfound : pattern.node.search? false (.start text) = some found)
    (hlast : ∀ moving, pattern.node.search? moving found.final.cursor = none) :
    pattern.findAll text = [found] := by
  simp [findAll, Node.findWithin, hfound, hlast]

end Highlighter.Regex
