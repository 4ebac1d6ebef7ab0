import Highlighter.Regex.Syntax
import Highlighter.Text.Blank
import Highlighter.Text.Case
import Highlighter.Text.Digit
import Highlighter.Text.Word

/-!
# What a character set matches

Two characters are equal under full folding if their lower cases are the same or belong to one class
of loosely equal letters. A range under folding holds a character if it holds any equal of it.
Ranges that leave the basic plane also hold a character whose upper case they hold.
-/

namespace Highlighter.Regex

open Highlighter.Text

/-- The representative of a code point when characters are compared. -/
def Folding.lower : Folding → Nat → Nat
  | .exact, code => code
  | .ascii, code => asciiLowerCode code
  | .full, code => lowerCode code

/-- Equality of two code points. -/
def Folding.same (folding : Folding) (code other : Nat) : Bool :=
  match folding with
  | .full => (looseCases (lowerCode other)).contains (lowerCode code)
  | folding => folding.lower code == folding.lower other

/-- All code points equal to the given one. -/
def Folding.equals : Folding → Nat → List Nat
  | .exact, code => [code]
  | .ascii, code =>
    let low := asciiLowerCode code
    if 97 ≤ low && low ≤ 122 then [low, low - 32] else [low]
  | .full, code => (looseCases (lowerCode code)).flatMap withLowerCode

/-- Membership in a named class. -/
def Category.holds (ascii : Bool) (c : Char) : Category → Bool
  | .digit => if ascii then c.isDigit else isDecimal c
  | .blank => if ascii then isAsciiBlank c else isBlank c
  | .word => if ascii then isAsciiWord c else isWord c

/-- The first code point beyond the basic plane. -/
def beyondBasicPlane : Nat := 65536

/-- Membership of a code point in a range, by any of its equals. -/
def rangeHolds (folding : Folding) (first last code : Nat) : Bool :=
  let within := fun other => decide (first ≤ other) && decide (other ≤ last)
  (folding.equals code).any within ||
    (folding != .exact && decide (beyondBasicPlane ≤ last) &&
      within (upperCode (folding.lower code)))

/-- Membership in one item. -/
def CharItem.holds (folding : Folding) (c : Char) : CharItem → Bool
  | .single code => folding.same c.toNat code
  | .lowered code => lowerCode c.toNat == code
  | .range first last => rangeHolds folding first last c.toNat
  | .category kind negated ascii => kind.holds ascii c != negated

/-- Whether a step consumes the character. -/
def CharSet.holds (set : CharSet) (c : Char) : Bool :=
  set.items.any (·.holds set.folding c) != set.negated

end Highlighter.Regex
