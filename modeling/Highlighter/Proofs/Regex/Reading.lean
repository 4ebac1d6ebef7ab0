import Highlighter.Regex.Reader

/-!
# The reader of patterns ends by itself

The functions of the reader carry a bound on the depth of their descent. Every reader takes tokens
and gives none back, and a function that calls others has taken a token before it comes round to
itself again. Between two tokens the descent goes through at most five functions, so five levels for
each token are enough and the bound is never reached.

## Main definitions

* `Reader.Ensures` — what is known after a reader, which does not reach the bound
* `Reader.Ends` — a reader that reaches no bound and gives no tokens back
* `Descends` — the functions of the descent end if the bound is large enough for the tokens left

## Main results

* `descends` — each function of the descent ends under every bound
* `Pattern.read_ne_exhausted` — no text makes the reader reach the bound
-/

namespace Highlighter.Regex

open Highlighter.Text

variable {α β : Type}

/-- A reader that begins in a state succeeds with a value and a state as described, or it fails
without having reached the bound on its depth. -/
def Reader.Ensures (reader : Reader α) (state : ReadState) (post : α → ReadState → Prop) : Prop :=
  match reader.run state with
  | .ok (value, next) => post value next
  | .error fault => fault ≠ .exhausted

/-- A reader that begins in a state leaves at most the given number of tokens. -/
abbrev Reader.Leaves (reader : Reader α) (state : ReadState) (most : Nat) : Prop :=
  reader.Ensures state fun _ next => next.rest.length ≤ most

/-- A reader reaches no bound and gives no tokens back. -/
def Reader.Ends (reader : Reader α) : Prop :=
  ∀ state, reader.Leaves state state.rest.length

namespace Reader

variable {reader : Reader α} {state : ReadState} {post : α → ReadState → Prop}

/-! ## Readers one after the other -/

theorem Ensures.bind {next : α → Reader β} {middle : α → ReadState → Prop}
    {post : β → ReadState → Prop} (first : reader.Ensures state middle)
    (second : ∀ value later, middle value later → (next value).Ensures later post) :
    (reader >>= next).Ensures state post := by
  rw [Ensures] at first
  rw [Ensures, StateT.run_bind]
  cases h : reader.run state with
  | error fault =>
    rw [h] at first
    exact first
  | ok result =>
    rw [h] at first
    exact second _ _ first

theorem Ensures.imp {weaker : α → ReadState → Prop} (h : reader.Ensures state post)
    (himp : ∀ value next, post value next → weaker value next) : reader.Ensures state weaker := by
  rw [Ensures] at h ⊢
  cases hrun : reader.run state with
  | error fault =>
    rw [hrun] at h
    exact h
  | ok result =>
    rw [hrun] at h
    exact himp _ _ h

theorem Ensures.leaves {least most : Nat} (h : reader.Leaves state least) (le : least ≤ most) :
    reader.Leaves state most :=
  h.imp fun _ _ hnext => Nat.le_trans hnext le

theorem Ends.leaves {most : Nat} (h : reader.Ends) (le : state.rest.length ≤ most) :
    reader.Leaves state most :=
  (h state).leaves le

@[simp]
theorem ends_pure (value : α) : Ends (pure value) :=
  fun _ => Nat.le_refl _

@[simp]
theorem ends_throw {error : PatternError} (other : error ≠ .exhausted) :
    Ends (throw error : Reader α) :=
  fun _ => other

@[simp]
theorem ends_fail : Ends (fail : Reader α) :=
  ends_throw PatternError.noConfusion

@[simp]
theorem ends_bind {next : α → Reader β} (first : reader.Ends)
    (second : ∀ value, (next value).Ends) :
    (reader >>= next).Ends := fun state =>
  (first state).bind fun value _ => (second value).leaves

/-- A reader goes on with one that ends by itself. -/
theorem Ensures.bind_ends {next : α → Reader β} {least most : Nat} (h : reader.Leaves state least)
    (le : least ≤ most) (ends : ∀ value, (next value).Ends) : (reader >>= next).Leaves state most :=
  h.bind fun value _ hlater => (ends value).leaves (Nat.le_trans hlater le)

@[simp]
theorem ends_map {change : α → β} (h : reader.Ends) : (change <$> reader).Ends := by
  rw [map_eq_pure_bind]
  exact ends_bind h fun _ => ends_pure _

@[simp]
theorem ends_ite {other : Reader α} {condition : Prop} [Decidable condition] :
    (if condition then reader else other).Ends ↔
      (condition → reader.Ends) ∧ (¬ condition → other.Ends) := by
  split <;> simp_all

@[simp]
theorem throw_bind (error : PatternError) (next : α → Reader β) :
    (throw error >>= next : Reader β) = throw error :=
  rfl

@[simp]
theorem fail_bind (next : α → Reader β) : (fail >>= next : Reader β) = fail :=
  rfl

/-! ## Readers that look at the state -/

@[simp]
theorem ends_get : Ends get :=
  fun _ => Nat.le_refl _

@[simp]
theorem ends_modify {change : ReadState → ReadState}
    (same : ∀ state, (change state).rest = state.rest) : Ends (modify change) :=
  fun state => Nat.le_of_eq (congrArg List.length (same state))

@[simp]
theorem ends_peek : peek.Ends :=
  ends_bind ends_get fun _ => ends_pure _

theorem ensures_get_bind {next : ReadState → Reader β} {post : β → ReadState → Prop}
    (h : (next state).Ensures state post) : (get >>= next).Ensures state post :=
  h

theorem ensures_peek_bind {next : Option Token → Reader β} {post : β → ReadState → Prop}
    (h : (next state.rest.head?).Ensures state post) : (peek >>= next).Ensures state post :=
  h

theorem ensures_modify_bind {change : ReadState → ReadState} {next : Unit → Reader β}
    {post : β → ReadState → Prop} (h : (next ()).Ensures (change state) post) :
    (modify change >>= next).Ensures state post :=
  h

theorem ensures_moveTo (rest : List Token) (state : ReadState) :
    (moveTo rest).Ensures state fun _ next => next.rest = rest := by
  unfold moveTo
  split
  · exact PatternError.noConfusion
  · rfl

theorem ensures_take (state : ReadState) :
    take.Ensures state fun token next => token = state.rest.head? ∧ next.rest = state.rest.tail :=
  ensures_get_bind ((ensures_moveTo _ state).bind fun _ _ h => ⟨rfl, h⟩)

@[simp]
theorem ends_take : take.Ends :=
  fun state => (ensures_take state).imp fun _ _ ⟨_, h⟩ => by simp [h]

/-- A token that is taken is one token less. -/
theorem ensures_take_bind {next : Option Token → Reader β} {post : β → ReadState → Prop}
    (nothing : ∀ later, later.rest.length ≤ state.rest.length → (next none).Ensures later post)
    (something : ∀ token later, later.rest.length < state.rest.length →
      (next (some token)).Ensures later post) :
    (take >>= next).Ensures state post := by
  refine (ensures_take state).bind ?_
  rintro _ later ⟨rfl, hlater⟩
  cases hrest : state.rest with
  | nil => exact nothing later (by simp [hlater])
  | cons token rest => exact something token later (by simp [hlater, hrest])

@[simp]
theorem ends_eat (c : Char) : (eat c).Ends := by
  simp [eat]

/-- A character that is taken is one token less. -/
theorem ensures_eat_bind {c : Char} {next : Bool → Reader β} {post : β → ReadState → Prop}
    (missed : (next false).Ensures state post)
    (taken : ∀ later, later.rest.length < state.rest.length → (next true).Ensures later post) :
    (eat c >>= next).Ensures state post := by
  rw [eat, bind_assoc]
  refine ensures_peek_bind ?_
  split
  · next h =>
    rw [bind_assoc]
    refine (ensures_take state).bind ?_
    rintro _ later ⟨-, hlater⟩
    refine taken later ?_
    rw [hlater, List.length_tail]
    have := List.length_pos_of_mem (List.mem_of_head? h)
    omega
  · exact missed

@[simp]
theorem ends_expect (c : Char) : (expect c).Ends := by
  simp [expect]

end Reader

open Reader

/-! ## Loops over tokens -/

section Loops

variable {state : ReadState} {count : Nat}

@[simp]
theorem ends_takeWhile (kind : Char → Bool) (count : Nat) : (takeWhile kind count).Ends := by
  induction count with
  | zero => exact ends_pure _
  | succ count ih =>
    unfold takeWhile
    refine ends_bind ends_peek fun token => ?_
    split <;> simp [ih]

theorem leaves_takeName (close : Char) (enough : state.rest.length < count) :
    (takeName close count).Leaves state state.rest.length := by
  induction count generalizing state with
  | zero => omega
  | succ count ih =>
    refine ensures_take_bind (fun _ _ => PatternError.noConfusion) fun token later hlater => ?_
    have hrest := (@ih later (by omega)).leaves (Nat.le_of_lt hlater)
    cases token with
    | plain c =>
      dsimp only
      split
      · exact Nat.le_of_lt hlater
      · exact hrest.bind fun _ _ h => h
    | escaped c => exact hrest.bind fun _ _ h => h
    | dangling => exact PatternError.noConfusion

@[simp]
theorem ends_takeNonemptyName (close : Char) : (takeNonemptyName close).Ends := by
  intro state
  refine ensures_get_bind ((leaves_takeName close (by omega)).bind fun name _ => ?_)
  refine Ends.leaves ?_
  simp

theorem leaves_skipPast (close : Char) {atEnd : Reader Unit} (hend : atEnd.Ends)
    (enough : state.rest.length < count) :
    (skipPast close atEnd count).Leaves state state.rest.length := by
  induction count generalizing state with
  | zero => omega
  | succ count ih =>
    refine ensures_take_bind (fun _ => hend.leaves) fun token later hlater => ?_
    dsimp only
    split
    · exact Nat.le_of_lt hlater
    · exact (@ih later (by omega)).leaves (Nat.le_of_lt hlater)

theorem leaves_optionLetters (closers : List Char) (c : Char) (enough : state.rest.length < count) :
    (optionLetters closers count c).Leaves state state.rest.length := by
  induction count generalizing state c with
  | zero => omega
  | succ count ih =>
    unfold optionLetters
    split
    · exact PatternError.noConfusion
    · refine ensures_take_bind (fun _ _ => PatternError.noConfusion) fun token later hlater => ?_
      cases token with
      | plain d =>
        dsimp only
        split
        · exact Nat.le_of_lt hlater
        · exact ((@ih later d (by omega)).leaves (Nat.le_of_lt hlater)).bind fun _ _ h => h
      | escaped d => exact PatternError.noConfusion
      | dangling => exact PatternError.noConfusion

end Loops

/-! ## Escapes and character classes -/

section Escapes

@[simp]
theorem ends_hexEscape (count : Nat) : (hexEscape count).Ends := by
  simp [hexEscape]

@[simp]
theorem ends_namedEscape : namedEscape.Ends := by
  refine ends_bind (ends_expect _) fun _ => ends_bind (ends_takeNonemptyName _) fun _ =>
    ends_bind ends_get fun _ => ?_
  split <;> simp

@[simp]
theorem ends_sharedEscape (c : Char) : (sharedEscape c).Ends := by
  unfold sharedEscape
  split <;> simp

@[simp]
theorem ends_classEscape (options : Options) (c : Char) : (classEscape options c).Ends := by
  unfold classEscape
  split <;> simp

@[simp]
theorem ends_groupWidth? (index : Nat) : (groupWidth? index).Ends := by
  unfold groupWidth?
  split <;> simp

@[simp]
theorem ends_checkBehind (index : Nat) : (checkBehind index).Ends := by
  refine ends_bind ends_get fun _ => ?_
  split <;> simp

@[simp]
theorem ends_backreference (options : Options) (index : Nat) :
    (backreference options index).Ends := by
  refine ends_bind (ends_groupWidth? index) fun _ => ?_
  simp

@[simp]
theorem ends_numberEscape (options : Options) (c : Char) : (numberEscape options c).Ends := by
  refine ends_bind (ends_takeWhile _ _) fun _ => ?_
  split
  · refine ends_ite.2 ⟨fun _ => ends_bind (ends_takeWhile _ _) fun _ => ?_, by simp⟩
    split <;> simp
  · simp

@[simp]
theorem ends_escape (options : Options) (c : Char) : (escape options c).Ends := by
  unfold escape
  split <;> simp

@[simp]
theorem ends_classItem (options : Options) (token : Token) : (classItem options token).Ends := by
  cases token <;> simp [classItem]

theorem leaves_classItems (options : Options) (items : List CharItem) {state : ReadState}
    {count : Nat} (enough : state.rest.length < count) :
    (classItems options count items).Leaves state state.rest.length := by
  induction count generalizing state items with
  | zero => omega
  | succ count ih =>
    refine ensures_take_bind (fun _ _ => PatternError.noConfusion) fun token later hlater => ?_
    -- after the first token of an item the loop may go on from anywhere
    have hrest : ∀ items next, next.rest.length ≤ later.rest.length →
        (classItems options count items).Leaves next state.rest.length := fun items next h =>
      (@ih items next (by omega)).leaves (by omega)
    dsimp only
    split
    · exact Nat.le_of_lt hlater
    · refine (ends_classItem options token later).bind fun first next hnext => ?_
      refine ensures_eat_bind (hrest _ next hnext) fun dashed hdashed => ?_
      refine ensures_take_bind (fun _ _ => PatternError.noConfusion) fun token final hfinal => ?_
      split
      · exact PatternError.noConfusion
      · show final.rest.length ≤ _
        omega
      · refine (ends_classItem options _ final).bind fun last end_ hend => ?_
        split
        · split
          · exact PatternError.noConfusion
          · exact hrest _ _ (by omega)
        · exact PatternError.noConfusion

@[simp]
theorem ends_charClass (options : Options) : (charClass options).Ends := by
  refine ends_bind (ends_eat _) fun _ state => ?_
  refine ensures_get_bind ((leaves_classItems options [] (by omega)).bind fun items _ => ?_)
  refine Ends.leaves ?_
  dsimp only
  split <;> simp

end Escapes

/-! ## Quantifiers -/

section Quantifiers

@[simp]
theorem ends_repeatCount (digits : List Char) : (repeatCount digits).Ends := by
  simp [repeatCount]

@[simp]
theorem ends_repeatBounds (low high : List Char) : (repeatBounds low high).Ends := by
  unfold repeatBounds
  refine ends_ite.2 ⟨fun _ => ?_, fun _ => ends_bind (ends_repeatCount low) fun least => ?_⟩
  · simp
  · simp

@[simp]
theorem ends_quantifier (c : Char) : (quantifier c).Ends := by
  unfold quantifier
  split
  · simp
  · simp
  · simp
  · intro state
    refine ensures_get_bind (ensures_peek_bind ?_)
    split
    · exact Nat.le_refl _
    · refine (ends_takeWhile _ _ state).bind fun low digits hdigits => ?_
      refine (ends_eat _ digits).bind fun comma second hsecond => ?_
      refine (ends_takeWhile _ _ second).bind fun high close hclose => ?_
      refine ensures_eat_bind ?_ fun later hlater => ?_
      · -- without a closing brace the brace stands for itself, and the reader goes back to it
        refine (ensures_moveTo _ close).bind fun _ last hlast => ?_
        exact Nat.le_of_eq (congrArg List.length hlast)
      · refine Ends.leaves ?_ (by omega)
        simp

@[simp]
theorem ends_takeGreed : takeGreed.Ends := by
  simp [takeGreed]

@[simp]
theorem ends_repeatLast (least : Nat) (most : Option Nat) (pieces : List Piece) :
    (repeatLast least most pieces).Ends := by
  unfold repeatLast
  split
  · simp
  · dsimp only
    split <;> simp

end Quantifiers

/-! ## Groups -/

section Groups

@[simp]
theorem ends_openGroup (name : Option String) : (openGroup name).Ends := by
  intro state
  refine ensures_get_bind ?_
  split
  · split
    · exact PatternError.noConfusion
    · exact Nat.le_refl _
  · exact Nat.le_refl _

@[simp]
theorem ends_widthNow (node : Node) : (widthNow node).Ends := by
  simp [widthNow]

@[simp]
theorem ends_closeGroup (index : Nat) (body : Node) : (closeGroup index body).Ends := by
  simp [closeGroup]

@[simp]
theorem ends_conditionGroup (name : List Char) : (conditionGroup name).Ends := by
  refine ends_ite.2 ⟨fun _ => ends_bind ends_get fun _ => ?_, fun _ => ?_⟩
  · split <;> simp
  · split <;> simp

@[simp]
theorem ends_behindNode (negated : Bool) (body : Node) : (behindNode negated body).Ends := by
  refine ends_bind (ends_widthNow body) fun width => ?_
  simp

@[simp]
theorem ends_takeOptions (closers : List Char) (c : Char) : (takeOptions closers c).Ends :=
  fun _ => ensures_get_bind (leaves_optionLetters closers c (by omega))

@[simp]
theorem ends_removedOptions (added : List Char) : (removedOptions added).Ends := by
  refine ends_bind ends_take fun token => ?_
  split
  · refine ends_bind (ends_takeOptions _ _) fun letters => ?_
    simp
  · exact ends_fail

@[simp]
theorem ends_optionChange (c : Char) : (optionChange c).Ends := by
  refine ends_ite.2 ⟨fun _ => ?_, fun _ => ends_bind (ends_takeOptions _ c) fun letters => ?_⟩
  · simp
  · simp

end Groups

/-! ## The descent -/

/-- The functions of the descent end if the bound is large enough for the tokens left. A function
that calls another one before it takes a token needs one level more. -/
structure Descends (fuel : Nat) : Prop where
  sequence : ∀ first options pieces (state : ReadState), 5 * state.rest.length + 1 ≤ fuel →
    (sequence fuel first options pieces).Leaves state state.rest.length
  branches : ∀ nested first options (state : ReadState), 5 * state.rest.length + 2 ≤ fuel →
    (branches fuel nested first options).Leaves state state.rest.length
  alternation : ∀ nested options (state : ReadState), 5 * state.rest.length + 3 ≤ fuel →
    (alternation fuel nested options).Leaves state state.rest.length
  captured : ∀ name options (state : ReadState), 5 * state.rest.length + 4 ≤ fuel →
    (captured fuel name options).Leaves state state.rest.length
  lookedAhead : ∀ negated options (state : ReadState), 5 * state.rest.length + 4 ≤ fuel →
    (lookedAhead fuel negated options).Leaves state state.rest.length
  lookedBehind : ∀ negated options (state : ReadState), 5 * state.rest.length + 4 ≤ fuel →
    (lookedBehind fuel negated options).Leaves state state.rest.length
  opened : ∀ first options (state : ReadState), 5 * state.rest.length + 5 ≤ fuel →
    (opened fuel first options).Leaves state state.rest.length

namespace Descends

variable {fuel : Nat} {state : ReadState}

theorem succ_alternation (h : Descends fuel) (nested : Bool) (options : Options)
    (enough : 5 * state.rest.length + 3 ≤ fuel + 1) :
    (Regex.alternation (fuel + 1) nested options).Leaves state state.rest.length := by
  rw [Regex.alternation]
  refine (h.branches nested true options state (by omega)).bind fun _ later hlater => ?_
  exact ensures_get_bind hlater

theorem succ_branches (h : Descends fuel) (nested first : Bool) (options : Options)
    (enough : 5 * state.rest.length + 2 ≤ fuel + 1) :
    (Regex.branches (fuel + 1) nested first options).Leaves state state.rest.length := by
  rw [Regex.branches]
  refine (h.sequence _ options [] state (by omega)).bind fun branch later hlater => ?_
  refine ensures_eat_bind hlater fun next hnext => ensures_get_bind ?_
  refine (h.branches _ _ _ next (by omega)).bind fun _ last hlast => ?_
  exact Nat.le_trans hlast (by omega)

theorem succ_captured (h : Descends fuel) (name : Option String) (options : Options)
    (enough : 5 * state.rest.length + 4 ≤ fuel + 1) :
    (Regex.captured (fuel + 1) name options).Leaves state state.rest.length := by
  rw [Regex.captured]
  refine (ends_openGroup name state).bind fun index later hlater => ?_
  exact (h.alternation _ _ later (by omega)).bind_ends hlater fun nodes => by simp

theorem succ_lookedAhead (h : Descends fuel) (negated : Bool) (options : Options)
    (enough : 5 * state.rest.length + 4 ≤ fuel + 1) :
    (Regex.lookedAhead (fuel + 1) negated options).Leaves state state.rest.length := by
  rw [Regex.lookedAhead]
  exact (h.alternation _ _ state (by omega)).bind_ends (Nat.le_refl _) fun nodes => by simp

theorem succ_lookedBehind (h : Descends fuel) (negated : Bool) (options : Options)
    (enough : 5 * state.rest.length + 4 ≤ fuel + 1) :
    (Regex.lookedBehind (fuel + 1) negated options).Leaves state state.rest.length := by
  rw [Regex.lookedBehind]
  refine ensures_get_bind ?_
  dsimp only
  split
  · refine ensures_modify_bind ?_
    exact Ensures.bind_ends (h.alternation _ _ _ (Nat.le_of_succ_le_succ enough)) (Nat.le_refl _)
      fun nodes => by simp
  · exact (h.alternation _ _ state (by omega)).bind_ends (Nat.le_refl _) fun nodes => by simp

theorem succ_opened (h : Descends fuel) (first : Bool) (options : Options)
    (enough : 5 * state.rest.length + 5 ≤ fuel + 1) :
    (Regex.opened (fuel + 1) first options).Leaves state state.rest.length := by
  rw [Regex.opened]
  refine ensures_eat_bind ((h.captured none options state (by omega)).bind fun _ _ h => h) ?_
  intro marked hmarked
  refine ensures_take_bind (fun _ _ => PatternError.noConfusion) fun token later hlater => ?_
  split
  · -- one case for each character that may follow the question mark
    split
    · -- a group with a name, or a reference to one
      refine ensures_eat_bind ?_ fun named hnamed => ?_
      · refine ensures_eat_bind PatternError.noConfusion fun referred hreferred => ?_
        refine Ends.leaves (ends_bind (ends_takeNonemptyName _) fun name => ?_) (by omega)
        refine ends_bind ends_get fun _ => ?_
        split <;> simp
      · refine (ends_takeNonemptyName _ named).bind fun name next hnext => ?_
        dsimp only
        split
        · exact PatternError.noConfusion
        · exact (h.captured _ _ next (by omega)).bind_ends (by omega) fun _ => by simp
    · exact (h.alternation _ _ later (by omega)).bind_ends (by omega) fun nodes => by simp
    · -- a comment
      refine ensures_get_bind ?_
      exact (leaves_skipPast _ ends_fail (by omega)).bind_ends (by omega) fun _ => by simp
    · exact (h.lookedAhead _ _ later (by omega)).bind_ends (by omega) fun node => by simp
    · exact (h.lookedAhead _ _ later (by omega)).bind_ends (by omega) fun node => by simp
    · -- a look behind of either kind
      refine ensures_eat_bind (ensures_eat_bind PatternError.noConfusion ?_) ?_ <;>
        intro next hnext <;>
        exact (h.lookedBehind _ _ next (by omega)).bind_ends (by omega) fun node => by simp
    · -- a choice by whether a group has matched, with one branch or two
      refine (ends_takeNonemptyName _ later).bind fun name named hnamed => ?_
      refine (ends_conditionGroup name named).bind fun index chosen hchosen => ?_
      refine (ends_checkBehind index chosen).bind fun _ checked hchecked => ?_
      refine (h.sequence _ _ _ checked (by omega)).bind fun present next hnext => ?_
      refine ensures_eat_bind (Ends.leaves (by simp) (by omega)) fun barred hbarred => ?_
      exact (h.sequence _ _ _ barred (by omega)).bind_ends (by omega) fun absent => by simp
    · exact (h.alternation _ _ later (by omega)).bind_ends (by omega) fun nodes => by simp
    · -- options, for the whole pattern or for a group
      refine (ends_optionChange _ later).bind fun change next hnext => ?_
      dsimp only
      split
      · refine Ends.leaves ?_ (show next.rest.length ≤ _ by omega)
        simp
      · exact (h.alternation _ _ next (by omega)).bind_ends (by omega) fun nodes => by simp
  · exact PatternError.noConfusion

theorem succ_sequence (h : Descends fuel) (first : Bool) (options : Options) (pieces : List Piece)
    (enough : 5 * state.rest.length + 1 ≤ fuel + 1) :
    (Regex.sequence (fuel + 1) first options pieces).Leaves state state.rest.length := by
  rw [Regex.sequence]
  refine ensures_peek_bind ?_
  split
  · exact Nat.le_refl _
  · refine ensures_take_bind (fun _ _ => PatternError.noConfusion) fun token later hlater => ?_
    -- whatever the token was, the sequence goes on with fewer tokens than it began with
    have hsequence : ∀ first options pieces (next : ReadState),
        next.rest.length ≤ later.rest.length →
          (Regex.sequence fuel first options pieces).Leaves next state.rest.length :=
      fun first options pieces next hnext =>
        (h.sequence first options pieces next (by omega)).leaves (by omega)
    split
    · exact (ends_escape options _ later).bind fun _ next => hsequence _ _ _ next
    · dsimp only
      split
      · exact hsequence _ _ _ later (Nat.le_refl _)
      · split
        · -- a comment to the end of the line
          refine ensures_get_bind ?_
          refine (leaves_skipPast _ (ends_pure ()) (by omega)).bind fun _ next hnext => ?_
          exact hsequence _ _ _ next hnext
        · split
          · exact (ends_charClass options later).bind fun _ next => hsequence _ _ _ next
          · exact hsequence _ _ _ later (Nat.le_refl _)
          · exact hsequence _ _ _ later (Nat.le_refl _)
          · exact hsequence _ _ _ later (Nat.le_refl _)
          · refine (h.opened _ options later (by omega)).bind fun what next hnext => ?_
            cases what <;> exact hsequence _ _ _ next hnext
          · split
            · refine (ends_quantifier _ later).bind fun bounds next hnext => ?_
              split
              · refine (ends_repeatLast _ _ pieces next).bind fun _ last hlast => ?_
                exact hsequence _ _ _ last (Nat.le_trans hlast hnext)
              · exact hsequence _ _ _ next hnext
            · exact hsequence _ _ _ later (Nat.le_refl _)
    · exact PatternError.noConfusion

end Descends

/-- Each function of the descent ends under every bound that is large enough for the tokens left. -/
theorem descends (fuel : Nat) : Descends fuel := by
  induction fuel with
  | zero =>
    -- every function needs at least one level
    constructor <;> intros <;> omega
  | succ fuel ih =>
    exact {
      sequence := fun _ _ _ _ => ih.succ_sequence _ _ _
      branches := fun _ _ _ _ => ih.succ_branches _ _ _
      alternation := fun _ _ _ => ih.succ_alternation _ _
      captured := fun _ _ _ => ih.succ_captured _ _
      lookedAhead := fun _ _ _ => ih.succ_lookedAhead _ _
      lookedBehind := fun _ _ _ => ih.succ_lookedBehind _ _
      opened := fun _ _ _ => ih.succ_opened _ _ }

theorem ends_wholePattern : wholePattern.Ends := by
  intro state
  refine ensures_get_bind ((ensures_moveTo _ state).bind fun _ later hlater => ?_)
  have hlength : later.rest.length ≤ state.rest.length := Nat.le_of_eq (by rw [hlater])
  refine ensures_get_bind ?_
  refine ((descends _).alternation _ _ later (by omega)).bind_ends hlength fun nodes => ?_
  refine ends_bind ends_get fun _ => ?_
  simp

/-- No text makes the reader reach the bound on its depth. -/
theorem Pattern.read_ne_exhausted (source : String) (options : Options)
    (characters : String → Option Nat) :
    Pattern.read source options characters ≠ .error .exhausted := by
  have h := ends_wholePattern { rest := tokens source.toList, options, characters }
  rw [Leaves, Ensures] at h
  rw [Pattern.read]
  cases hrun : wholePattern.run { rest := tokens source.toList, options, characters } with
  | ok result =>
    intro heq
    cases heq
  | error fault =>
    rw [hrun] at h
    exact fun heq => h (Except.error.inj heq)

end Highlighter.Regex
