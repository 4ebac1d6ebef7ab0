import Highlighter.Proofs.Regex.Progress

/-!
# Repetitions, and where a search ends

A search finds the leftmost place at which an expression matches. A repetition leads past pieces of
text, one for each time that its body is matched. If it is greedy, it takes as many pieces as there
are; if it is lazy, it goes on only as long as what follows does not match.

## Main results

* `Node.exists_of_search?` — what is found matches where it begins, and nothing matches before
* `Node.exists_pieces_of_leads_repeated` — the pieces that a repetition leads past
* `Node.prefers_repeated_pieces` — a greedy repetition takes all pieces
* `Node.prefers_lazy_chars` — a lazy one stops where what follows matches for the first time
-/

namespace Highlighter.Regex

/-- A later place is reached by passing what lies in between. -/
theorem Cursor.Precedes.before_eq {cursor later : Cursor} {taken : List Char}
    (h : cursor.Precedes later) (hafter : cursor.after = taken ++ later.after) :
    later.before = taken.reverse ++ cursor.before := by
  have htext := h.text_eq
  rw [Cursor.text, Cursor.text, hafter, ← List.append_assoc] at htext
  have hbefore := congrArg List.reverse (List.append_cancel_right htext)
  simpa using hbefore

namespace Node

open Cursor (between)

variable {node body second : Node} {set : CharSet} {state reached : State} {found : Match}
  {before after : List Char} {captures : List (Nat × Capture)}

/-! ## Searching -/

theorem leads_of_matchAt? {moving : Bool} {cursor : Cursor}
    (h : node.matchAt? moving cursor = some found) : node.Leads ⟨cursor, []⟩ found.final := by
  obtain ⟨final, hrun, rfl⟩ := Option.map_eq_some_iff.1 h
  obtain ⟨reached, hleads, hreached⟩ := node.exists_leads_of_run hrun
  by_cases hempty : (moving && reached.cursor.offset == cursor.offset) = true
  · simp [hempty] at hreached
  · obtain rfl : reached = final := by simpa [hempty] using hreached
    exact hleads

/-- What is found matches where it begins, and nothing matches before. -/
theorem exists_of_search? (h : node.search? false (between before after) = some found) :
    ∃ passed rest, after = passed ++ rest ∧
      node.matchAt? false (between (passed.reverse ++ before) rest) = some found ∧
      ∀ first others, passed = first ++ others → others ≠ [] →
        node.matchAt? false (between (first.reverse ++ before) (others ++ rest)) = none := by
  induction after generalizing before with
  | nil =>
    refine ⟨[], [], rfl, h, ?_⟩
    intro first others hsplit hothers
    exact absurd (List.append_eq_nil_iff.1 hsplit.symm).2 hothers
  | cons c after ih =>
    cases hmatch : node.matchAt? false (between before (c :: after)) with
    | some other =>
      obtain rfl : other = found := Option.some.inj ((search?_of_matchAt? hmatch).symm.trans h)
      refine ⟨[], c :: after, rfl, hmatch, ?_⟩
      intro first others hsplit hothers
      exact absurd (List.append_eq_nil_iff.1 hsplit.symm).2 hothers
    | none =>
      rw [search?_of_matchAt?_eq_none hmatch] at h
      obtain ⟨passed, rest, rfl, hfound, hnone⟩ := ih h
      refine ⟨c :: passed, rest, rfl, by simpa using hfound, ?_⟩
      intro first others hsplit hothers
      cases first with
      | nil =>
        obtain rfl : c :: passed = others := hsplit
        exact hmatch
      | cons d first =>
        obtain ⟨rfl, hpassed⟩ := List.cons.inj hsplit
        simpa using hnone first others hpassed hothers

/-- What is tied to the beginning of a text matches from there. -/
theorem leads_of_search?_textStart
    (h : (seq (anchor .textStart) body).search? false (between [] after) = some found) :
    body.Leads ⟨between [] after, []⟩ found.final := by
  obtain ⟨passed, rest, rfl, hmatch, -⟩ := exists_of_search? h
  obtain ⟨_, ⟨hstart, rfl⟩, hbody⟩ := leads_of_matchAt? hmatch
  obtain rfl : passed = [] := by simpa [Anchor.holds] using hstart
  exact hbody

/-! ## Repetitions -/

/-- A repetition leads past one piece for each time that its body is matched. -/
theorem exists_pieces_of_leads_repeated {isPiece : List Char → Prop}
    (hpiece : ∀ {state reached : State}, body.Leads state reached →
      ∃ piece, state.cursor.after = piece ++ reached.cursor.after ∧ isPiece piece)
    {least : Nat} {most : Option Nat} {greed : Greed}
    (h : (repeated least most greed body).Leads state reached) :
    ∃ pieces : List (List Char), state.cursor.after = pieces.flatten ++ reached.cursor.after ∧
      ∀ piece ∈ pieces, isPiece piece := by
  obtain ⟨extra, -, h⟩ := h
  generalize least + extra = count at h
  induction h with
  | zero state => exact ⟨[], rfl, by simp⟩
  | succ hfirst _ ih =>
    obtain ⟨piece, hafter, isPiece⟩ := hpiece hfirst
    obtain ⟨pieces, hothers, arePieces⟩ := ih
    refine ⟨piece :: pieces, by simp [hafter, hothers], ?_⟩
    simpa [isPiece] using arePieces

theorem length_le_length_flatten {pieces : List (List Char)}
    (nonempty : ∀ piece ∈ pieces, piece ≠ []) :
    pieces.length ≤ pieces.flatten.length := by
  induction pieces with
  | nil => simp
  | cons piece pieces ih =>
    simp only [List.mem_cons, forall_eq_or_imp] at nonempty
    have hpiece := List.length_pos_iff.2 nonempty.1
    have hothers := ih nonempty.2
    simp only [List.length_cons, List.flatten_cons, List.length_append]
    omega

theorem prefers_repeated_pieces (pieces : List (List Char)) (after : List Char)
    (each : ∀ piece ∈ pieces, piece ≠ [] ∧ ∀ before after,
      body.Prefers ⟨between before (piece ++ after), captures⟩
        ⟨between (piece.reverse ++ before) after, captures⟩)
    (nowhere : ∀ before reached, ¬ body.Leads ⟨between before after, captures⟩ reached) :
    (repeated 0 none .greedy body).Prefers ⟨between before (pieces.flatten ++ after), captures⟩
      ⟨between (pieces.flatten.reverse ++ before) after, captures⟩ := by
  intro rest final h
  have hlength := length_le_length_flatten fun piece hpiece => (each piece hpiece).1
  refine further_pieces each nowhere ?_ (by simp) h
  simp only [furtherBound, Cursor.remaining_between, List.length_append]
  omega

/-- A lazy repetition of a set goes on until what follows matches. -/
theorem prefers_lazy_chars {taken : List Char} (holds : ∀ c ∈ taken, set.holds c)
    (nowhere : ∀ first others, taken = first ++ others → others ≠ [] → ∀ reached,
      ¬ second.Leads ⟨between (first.reverse ++ before) (others ++ after), captures⟩ reached)
    (prefers : second.Prefers ⟨between (taken.reverse ++ before) after, captures⟩ reached) :
    (seq (repeated 0 none .lazy (chars set)) second).Prefers
      ⟨between before (taken ++ after), captures⟩ reached := by
  intro rest final h
  change further (chars set).run false (second.run rest) _ none _ = some final
  have hbound : taken.length ≤ furtherBound 0 none
      (⟨between before (taken ++ after), captures⟩ : State) := by
    simp only [furtherBound, Cursor.remaining_between, List.length_append]
    omega
  have hmoved : ∀ offset ∈ (none : Option Nat), offset < before.length := by simp
  generalize furtherBound 0 none (⟨between before (taken ++ after), captures⟩ : State) = count
    at hbound
  generalize (none : Option Nat) = previous at hmoved
  induction taken generalizing before count previous with
  | nil =>
    have hdone := prefers rest final h
    cases count with
    | zero => exact hdone
    | succ count =>
      have hmoved : previous ≠ some before.length := fun h => absurd (hmoved _ h) (Nat.lt_irrefl _)
      simp only [List.reverse_nil, List.nil_append] at hdone
      simp [further, hmoved, hdone]
  | cons c taken ih =>
    obtain ⟨count, rfl⟩ : ∃ n, count = n + 1 := ⟨count - 1, by simp at hbound; omega⟩
    simp only [List.mem_cons, forall_eq_or_imp] at holds
    have hprevious : previous ≠ some before.length := fun h => absurd (hmoved _ h) (Nat.lt_irrefl _)
    have hstuck := second.run_eq_none (nowhere [] (c :: taken) rfl (by simp)) rest
    have hmore := @ih (c :: before) holds.2 ?_ (by simpa using prefers) count
      (by simpa using hbound) (some before.length) (by simp)
    · simp only [List.reverse_nil, List.nil_append] at hstuck
      simp only [List.cons_append] at hstuck ⊢
      simp [further, hprevious, hstuck, run_chars_cons holds.1, hmore]
    · intro first others hsplit hothers
      simpa using nowhere (c :: first) others (by simp [hsplit]) hothers

end Node

end Highlighter.Regex
