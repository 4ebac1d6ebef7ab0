/-!
# Reading data from the front of a text

The readers of data formats take characters from the front of a text and are refused as a whole.
This module holds the steps that they share.

Main definitions: `Refusal`, `Scan`.
-/

namespace Highlighter.Data

/-- Why a text is refused. -/
inductive Refusal where
  /-- The text is not of the format. -/
  | malformed
  /-- A whole number has too many digits. -/
  | longNumeral (digits : Nat)
  deriving DecidableEq, Repr

/-- Actions that take characters from the front of a text, or are refused. -/
abbrev Scan := StateT (List Char) (Except Refusal)

namespace Scan

/-- Gives up on a text that is not of the format. -/
def refuse {α : Type} : Scan α :=
  fun _ => .error .malformed

/-- The next character, which is not taken. -/
def peek : Scan (Option Char) := do
  return (← get).head?

/-- Takes the next character. -/
def next : Scan Char := fun text =>
  match text with
  | c :: rest => .ok (c, rest)
  | [] => .error .malformed

/-- Takes a text if it is next. -/
def eat (expected : List Char) : Scan Bool := fun text =>
  if expected.isPrefixOf text then .ok (true, text.drop expected.length) else .ok (false, text)

/-- Takes a text, which must be next. -/
def expect (expected : List Char) : Scan Unit := do
  unless ← eat expected do refuse

/-- Takes all characters of a kind. -/
def takeWhile (kind : Char → Bool) : Scan (List Char) := fun text =>
  .ok (text.takeWhile kind, text.dropWhile kind)

/-- Skips all characters of a kind. -/
def skipWhile (kind : Char → Bool) : Scan Unit := fun text =>
  .ok ((), text.dropWhile kind)

/-- Takes exactly the given number of characters, all of a kind. -/
def takeCount (kind : Char → Bool) (count : Nat) : Scan (List Char) := fun text =>
  let taken := text.take count
  if taken.length = count && taken.all kind then .ok (taken, text.drop count)
  else .error .malformed

/-- Does what an action does, or nothing where it is refused. -/
def attempt {α : Type} (scan : Scan α) : Scan (Option α) := fun text =>
  match scan text with
  | .ok (value, rest) => .ok (some value, rest)
  | .error _ => .ok (none, text)

/-- Reads a whole text. -/
def whole {α : Type} (scan : Scan α) (text : List Char) : Except Refusal α :=
  match scan text with
  | .ok (value, []) => .ok value
  | .ok _ => .error .malformed
  | .error refusal => .error refusal

end Scan

end Highlighter.Data
