import Highlighter.Regex.CharSet
import Highlighter.Regex.Cursor

/-!
# Matching

An expression is matched at a place by trying its ways of matching in order of preference, each
followed by the rest of the pattern, until one succeeds. The rest is a function of the state
reached, so the matcher is a recursion on the expression.

A repetition first does its least number of iterations. Each further iteration is tried only if the
place has moved since the previous further iteration began, so an iteration that consumes nothing
is the last one.

Main definitions: `Node.run`, the matcher; `Pattern.search?`, the leftmost match from a place;
`Pattern.findAll`, all matches one after the other.
-/

namespace Highlighter.Regex

/-- What a group has matched. -/
structure Capture where
  start : Nat
  stop : Nat
  text : List Char
  deriving DecidableEq, Repr

/-- A place in the text with the groups matched so far, the latest first. -/
structure State where
  cursor : Cursor
  captures : List (Nat × Capture) := []

/-- What a group has matched last. -/
def State.capture? (state : State) (index : Nat) : Option Capture :=
  state.captures.lookup index

/-- Records that a group has matched from an earlier place up to here. -/
def State.record (state : State) (index : Nat) (from_ : Cursor) : State :=
  { state with
    captures := (index, ⟨from_.offset, state.cursor.offset, state.cursor.textSince from_.offset⟩)
      :: state.captures }

/-- Consumes a given text. -/
def Cursor.consume? (folding : Folding) : List Char → Cursor → Option Cursor
  | [], cursor => some cursor
  | c :: text, cursor =>
    match cursor.next? with
    | some (d, next) =>
      if folding.lower d.toNat == folding.lower c.toNat then next.consume? folding text else none
    | none => none

/-- The rest of a match. -/
abbrev Rest := State → Option State

/-- Runs a step the given number of times. -/
def times (step : Rest → Rest) (rest : Rest) : Nat → Rest
  | 0, state => rest state
  | count + 1, state => step (times step rest count) state

/-- Runs a step as often as possible, or as seldom as possible, up to the given number of times. The
step is not tried where its previous run began. -/
def further (step : Rest → Rest) (greedy : Bool) (rest : Rest) : Nat → Option Nat → Rest
  | 0, _, state => rest state
  | count + 1, previous, state =>
    if previous = some state.cursor.offset then rest state
    else if greedy then
      (step (further step greedy rest count (some state.cursor.offset)) state).orElse
        fun _ => rest state
    else
      (rest state).orElse fun _ =>
        step (further step greedy rest count (some state.cursor.offset)) state

/-- The number of further iterations that can matter: each but the last consumes a character. -/
def furtherBound (least : Nat) (most : Option Nat) (state : State) : Nat :=
  match most with
  | none => state.cursor.remaining + 1
  | some most => min (most - least) (state.cursor.remaining + 1)

/-- Matches an expression from a state, followed by the rest. -/
def Node.run : Node → Rest → Rest
  | .empty, rest, state => rest state
  | .chars set, rest, state =>
    match state.cursor.next? with
    | some (c, cursor) => if set.holds c then rest { state with cursor } else none
    | none => none
  | .anchor condition, rest, state => if condition.holds state.cursor then rest state else none
  | .seq first second, rest, state => first.run (second.run rest) state
  | .alt first second, rest, state => (first.run rest state).orElse fun _ => second.run rest state
  | .group index body, rest, state =>
    body.run (fun reached => rest (reached.record index state.cursor)) state
  | .backref index folding, rest, state =>
    match state.capture? index with
    | some capture =>
      match state.cursor.consume? folding capture.text with
      | some cursor => rest { state with cursor }
      | none => none
    | none => none
  | .repeated least most greed body, rest, state =>
    match greed with
    | .possessive =>
      match times body.run
          (fun reached => further body.run true some (furtherBound least most reached) none reached)
          least state with
      | some reached => rest reached
      | none => none
    | greed =>
      times body.run
        (fun reached =>
          further body.run (greed = .greedy) rest (furtherBound least most reached) none reached)
        least state
  | .ahead negated body, rest, state =>
    match body.run some state with
    | some reached => if negated then none else rest { reached with cursor := state.cursor }
    | none => if negated then rest state else none
  | .behind width negated body, rest, state =>
    match (state.cursor.back? width).bind fun cursor => body.run some { state with cursor } with
    | some reached => if negated then none else rest { reached with cursor := state.cursor }
    | none => if negated then rest state else none
  | .atomic body, rest, state =>
    match body.run some state with
    | some reached => rest reached
    | none => none
  | .cond index present absent, rest, state =>
    if (state.capture? index).isSome then present.run rest state else absent.run rest state

/-- A match: where it begins, and the state in which it ends. -/
structure Match where
  start : Nat
  final : State

/-- The offset at which a match ends. -/
def Match.stop (found : Match) : Nat :=
  found.final.cursor.offset

/-- The match of an expression at a place. If `moving`, it must not be empty. -/
def Node.matchAt? (node : Node) (moving : Bool) (cursor : Cursor) : Option Match :=
  let accept : Rest := fun reached =>
    if moving && reached.cursor.offset == cursor.offset then none else some reached
  (node.run accept { cursor }).map fun final => ⟨cursor.offset, final⟩

/-- The first match at the place or at one of the given number of places after it. If `moving`, a
match at the place itself must not be empty. -/
def Node.searchWithin? (node : Node) : Nat → Bool → Cursor → Option Match
  | 0, moving, cursor => node.matchAt? moving cursor
  | count + 1, moving, cursor =>
    (node.matchAt? moving cursor).orElse fun _ =>
      match cursor.next? with
      | some (_, next) => node.searchWithin? count false next
      | none => none

/-- The leftmost match from a place on. -/
def Node.search? (node : Node) (moving : Bool) (cursor : Cursor) : Option Match :=
  node.searchWithin? cursor.remaining moving cursor

/-- The matches from a place on, up to the given number of them. The search goes on where a match
ends, and after an empty match the next one must not be empty at that place. -/
def Node.findWithin (node : Node) : Nat → Bool → Cursor → List Match
  | 0, _, _ => []
  | count + 1, moving, cursor =>
    match node.search? moving cursor with
    | some found =>
      found :: node.findWithin count (found.stop == found.start) found.final.cursor
    | none => []

/-- The leftmost match of a pattern in a text. -/
def Pattern.search? (pattern : Pattern) (text : List Char) : Option Match :=
  pattern.node.search? false (.start text)

/-- All matches of a pattern in a text. At each place there is at most one empty and one other
match, which bounds their number. -/
def Pattern.findAll (pattern : Pattern) (text : List Char) : List Match :=
  pattern.node.findWithin (2 * text.length + 2) false (.start text)

/-- What a named group has matched. -/
def Match.named? (found : Match) (pattern : Pattern) (name : String) : Option Capture :=
  (pattern.groupNumber? name).bind found.final.capture?

end Highlighter.Regex
