import Highlighter.Data.Number
import Highlighter.Value.Table

/-!
# JSON

A reader of JSON. `NaN`, `Infinity` and `-Infinity` are numbers too. Where a key is repeated, the
first place and the last value count. Controls inside texts are refused.

Main definition: `Json.read`.
-/

namespace Highlighter.Data.Json

open Scan
open Highlighter.Text (isHexDigit ofDigitChars)

/-- Blanks between tokens. -/
def isSpace (c : Char) : Bool :=
  c == ' ' || c == '\t' || c == '\n' || c == '\r'

/-- A code unit of four hexadecimal digits. -/
def codeUnit : Scan Nat := do
  return ofDigitChars 16 (← takeCount isHexDigit 4)

/-- The character of a code unit. A leading surrogate joins with a trailing one that follows it;
alone it stands for no character and is replaced. -/
def joined (unit : Nat) : Scan Char := do
  if 0xD800 ≤ unit && unit < 0xDC00 then
    let rest ← get
    if ← eat ['\\', 'u'] then
      let trailing ← codeUnit
      if 0xDC00 ≤ trailing && trailing < 0xE000 then
        return Char.ofNat (0x10000 + (unit - 0xD800) * 0x400 + (trailing - 0xDC00))
    set rest
    return Char.ofNat 0xFFFD
  else if 0xDC00 ≤ unit && unit < 0xE000 then
    return Char.ofNat 0xFFFD
  else
    return Char.ofNat unit

/-- The character of an escape, the backslash of which has been read. -/
def escape : Scan Char := do
  match ← next with
  | '"' => return '"'
  | '\\' => return '\\'
  | '/' => return '/'
  | 'b' => return Char.ofNat 8
  | 'f' => return Char.ofNat 12
  | 'n' => return '\n'
  | 'r' => return '\r'
  | 't' => return '\t'
  | 'u' => joined (← codeUnit)
  | _ => refuse

/-- The characters of a text after its opening quote, added to those read so far, last first. -/
def textChars : Nat → List Char → Scan (List Char)
  | 0, _ => refuse
  | fuel + 1, read => do
    match ← next with
    | '"' => return read.reverse
    | '\\' => textChars fuel ((← escape) :: read)
    | c => if c.toNat < 32 then refuse else textChars fuel (c :: read)

/-- A text after its opening quote. -/
def text (fuel : Nat) : Scan String := do
  return String.ofList (← textChars fuel [])

/-- The digits before the point: a zero alone, or digits that do not begin with one. -/
def wholeDigits : Scan (List Char) := do
  let digits ← takeWhile Char.isDigit
  match digits with
  | [] => refuse
  | '0' :: rest =>
    modify (rest ++ ·)
    return ['0']
  | digits => return digits

/-- The digits after a point, if a point with digits is next. -/
def fractionDigits : Scan (List Char) := do
  let rest ← get
  if ← eat ['.'] then
    let digits ← takeWhile Char.isDigit
    if digits.isEmpty then
      set rest
    return digits
  else
    return []

/-- The sign and the digits of an exponent, if one is next. -/
def exponentDigits : Scan (Bool × List Char) := do
  let rest ← get
  let lowerCase ← eat ['e']
  let marked ← if lowerCase then pure true else eat ['E']
  if marked then
    let negative ← eat ['-']
    unless negative do
      let _ ← eat ['+']
    let digits ← takeWhile Char.isDigit
    if digits.isEmpty then
      set rest
    return (negative, digits)
  else
    return (false, [])

/-- A number, the sign of which has been read. -/
def number (negative : Bool) : Scan Value := do
  if ← eat "Infinity".toList then
    return .float (infinity negative)
  let whole ← wholeDigits
  let fraction ← fractionDigits
  let (exponentNegative, exponent) ← exponentDigits
  let parts : DecimalParts := { negative, whole, fraction, exponentNegative, exponent }
  parts.toValue

mutual

/-- A value with blanks before it. -/
def value : Nat → Scan Value
  | 0 => refuse
  | fuel + 1 => do
    skipWhile isSpace
    match ← peek with
    | some '"' =>
      let _ ← next
      return .text (← text fuel)
    | some '\x7b' =>
      let _ ← next
      skipWhile isSpace
      if ← eat ['\x7d'] then return .map [] else return .map (← members fuel [])
    | some '[' =>
      let _ ← next
      skipWhile isSpace
      if ← eat [']'] then return .list [] else return .list (← elements fuel [])
    | some '-' =>
      let _ ← next
      number true
    | _ =>
      if ← eat "null".toList then return .null
      else if ← eat "true".toList then return .bool true
      else if ← eat "false".toList then return .bool false
      else if ← eat "NaN".toList then return .float (0.0 / 0.0)
      else number false

/-- The members of an object up to its closing brace. -/
def members : Nat → Table → Scan Table
  | 0, _ => refuse
  | fuel + 1, table => do
    skipWhile isSpace
    expect ['"']
    let key ← text fuel
    skipWhile isSpace
    expect [':']
    let table := table.put key (← value fuel)
    skipWhile isSpace
    if ← eat [','] then members fuel table
    else
      expect ['\x7d']
      return table

/-- The elements of an array up to its closing bracket, added to those read so far, last first. -/
def elements : Nat → List Value → Scan (List Value)
  | 0, _ => refuse
  | fuel + 1, read => do
    let read := (← value fuel) :: read
    skipWhile isSpace
    if ← eat [','] then elements fuel read
    else
      expect [']']
      return read.reverse

end

/-- A value with blanks around it. -/
def document : Scan Value := do
  let result ← value ((← get).length + 1)
  skipWhile isSpace
  return result

/-- The value that a text denotes. -/
def read (text : String) : Except Refusal Value :=
  document.whole text.toList

end Highlighter.Data.Json
