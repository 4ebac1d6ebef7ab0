import Highlighter.Text.Blank
import Highlighter.Text.Digit

/-!
# Reading whole numbers

A whole number may stand between blanks, begin with a sign, hold decimal digits of any script, and
have single underscores between digits. A number of more than `maxDigits` digits is refused.
-/

namespace Highlighter.Text

/-- The greatest number of digits that is read. -/
def maxDigits : Nat := 4300

/-- The digits of a text in which single underscores may separate digits. -/
def separatedDigits? : List Char → Option (List Nat)
  | [] => none
  | [c] => (digitValue? c).map ([·])
  | c :: '_' :: rest => do
    let digit ← digitValue? c
    let digits ← separatedDigits? rest
    return digit :: digits
  | c :: rest => do
    let digit ← digitValue? c
    let digits ← separatedDigits? rest
    return digit :: digits

/-- Blanks that may surround a number: the ASCII ones and those beyond ASCII. -/
def isNumeralBlank (c : Char) : Bool :=
  if c.toNat < 128 then isAsciiBlank c else isBlank c

/-- The number without sign that a text denotes. -/
def readNat? (text : List Char) : Option Nat := do
  let digits ← separatedDigits? text
  if digits.length ≤ maxDigits then some (ofDigits 10 digits) else none

/-- The number that a text denotes. -/
def readInt? (text : List Char) : Option Int :=
  let text := ((text.dropWhile isNumeralBlank).reverse.dropWhile isNumeralBlank).reverse
  match text with
  | '-' :: digits => (readNat? digits).map fun value => -Int.ofNat value
  | '+' :: digits => (readNat? digits).map Int.ofNat
  | digits => (readNat? digits).map Int.ofNat

end Highlighter.Text
