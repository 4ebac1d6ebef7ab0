import Highlighter.Data.Number

/-!
# Scalars of TOML

Texts in their four forms, dates and times, and numbers.
-/

namespace Highlighter.Data.Toml

open Scan
open Highlighter.Text (isHexDigit ofDigitChars)

/-- Blanks inside a line. -/
def isSpace (c : Char) : Bool :=
  c == ' ' || c == '\t'

/-- Blanks inside an array. -/
def isSpaceOrBreak (c : Char) : Bool :=
  isSpace c || c == '\n'

/-- Controls that may stand in no line: all but the tab. -/
def isControl (c : Char) : Bool :=
  (c.toNat < 32 && c != '\t') || c.toNat = 127

/-! ## Texts -/

/-- A character given by hexadecimal digits. -/
def codePoint (digits : Nat) : Scan Char := do
  let code := ofDigitChars 16 (← takeCount isHexDigit digits)
  if code < 0xD800 || (0xE000 ≤ code && code < 0x110000) then return Char.ofNat code else refuse

/-- The characters of an escape, the backslash of which has been read. In a text of several lines a
backslash at the end of a line swallows the break and the blanks after it. -/
def escape (multiline : Bool) : Scan (List Char) := do
  match ← next with
  | 'b' => return [Char.ofNat 8]
  | 't' => return ['\t']
  | 'n' => return ['\n']
  | 'f' => return [Char.ofNat 12]
  | 'r' => return ['\r']
  | '"' => return ['"']
  | '\\' => return ['\\']
  | 'u' => return [← codePoint 4]
  | 'U' => return [← codePoint 8]
  | c =>
    if multiline && isSpaceOrBreak c then
      if c != '\n' then
        skipWhile isSpace
        expect ['\n']
      skipWhile isSpaceOrBreak
      return []
    else refuse

/-- The characters of a basic text after its opening quotes, added to those read so far, last
first. -/
def basicChars (multiline : Bool) : Nat → List Char → Scan (List Char)
  | 0, _ => refuse
  | fuel + 1, read => do
    let c ← next
    if c == '"' then
      if !multiline then return read.reverse
      else if ← eat ['"', '"'] then return read.reverse
      else basicChars multiline fuel (c :: read)
    else if c == '\\' then
      basicChars multiline fuel ((← escape multiline).reverse ++ read)
    else if isControl c && !(multiline && c == '\n') then refuse
    else basicChars multiline fuel (c :: read)

/-- The characters of a literal text after its opening quotes, added to those read so far, last
first. -/
def literalChars (multiline : Bool) : Nat → List Char → Scan (List Char)
  | 0, _ => refuse
  | fuel + 1, read => do
    let c ← next
    if c == '\'' then
      if !multiline then return read.reverse
      else if ← eat ['\'', '\''] then return read.reverse
      else literalChars multiline fuel (c :: read)
    else if isControl c && !(multiline && c == '\n') then refuse
    else literalChars multiline fuel (c :: read)

/-- Up to two quotes that stand right after the closing ones and belong to the text. -/
def extraQuotes (quote : Char) : Scan (List Char) := do
  if ← eat [quote] then
    if ← eat [quote] then return [quote, quote] else return [quote]
  else return []

/-- A text that begins with the given quote. -/
def text (fuel : Nat) (quote : Char) : Scan String := do
  let chars := if quote == '"' then basicChars else literalChars
  if ← eat [quote, quote, quote] then
    let _ ← eat ['\n']
    let body ← chars true fuel []
    return String.ofList (body ++ (← extraQuotes quote))
  else
    expect [quote]
    return String.ofList (← chars false fuel [])

/-- A text on one line that begins with the given quote. -/
def lineText (fuel : Nat) (quote : Char) : Scan String := do
  expect [quote]
  let chars := if quote == '"' then basicChars else literalChars
  return String.ofList (← chars false fuel [])

/-! ## Dates and times -/

/-- A number of two digits between bounds. -/
def twoDigits (low high : Nat) : Scan Nat := do
  let value := ofDigitChars 10 (← takeCount Char.isDigit 2)
  if low ≤ value && value ≤ high then return value else refuse

/-- Whether a year has a leap day. -/
def isLeap (year : Nat) : Bool :=
  year % 4 = 0 && (year % 100 ≠ 0 || year % 400 = 0)

/-- The number of days of a month. -/
def daysOf (year month : Nat) : Nat :=
  match month with
  | 2 => if isLeap year then 29 else 28
  | 4 | 6 | 9 | 11 => 30
  | _ => 31

/-- Whether the calendar has a day. -/
def isDay (date : Date) : Bool :=
  1 ≤ date.year && date.day ≤ daysOf date.year date.month

/-- The form of a date, which need not be a day of the calendar. -/
def dateForm : Scan Date := do
  let year := ofDigitChars 10 (← takeCount Char.isDigit 4)
  expect ['-']
  let month ← twoDigits 1 12
  expect ['-']
  let day ← twoDigits 1 31
  return { year, month, day }

/-- The millionths after a point, of which six digits count. -/
def microseconds : Scan Nat := do
  expect ['.']
  let digits ← takeWhile Char.isDigit
  if digits.isEmpty then refuse
  let digits := digits.take 6
  return ofDigitChars 10 digits * Nat.pow 10 (6 - digits.length)

/-- A time of the day. -/
def clock : Scan Clock := do
  let hour ← twoDigits 0 23
  expect [':']
  let minute ← twoDigits 0 59
  expect [':']
  let second ← twoDigits 0 59
  let micro ← attempt microseconds
  return { hour, minute, second, microsecond := micro.getD 0 }

/-- The minutes by which a zone is ahead of universal time. -/
def offset : Scan Int := do
  match ← next with
  | 'Z' | 'z' => return 0
  | '+' => distance
  | '-' => return -(← distance)
  | _ => refuse
where
  /-- Hours and minutes. -/
  distance : Scan Int := do
    let hours ← twoDigits 0 23
    expect [':']
    return hours * 60 + (← twoDigits 0 59)

/-- A time of the day after the mark that separates it from a date. -/
def clockAfterDate : Scan (Clock × Option Int) := do
  match ← next with
  | 'T' | 't' | ' ' => return (← clock, ← attempt offset)
  | _ => refuse

/-- A date, with or without a time. -/
def dateTime : Scan Value := do
  let date ← dateForm
  match ← attempt clockAfterDate with
  | some (time, ahead) => return .dateTime date time ahead
  | none => return .date date

/-- Whether the day of a date is one of the calendar. -/
def hasDay : Value → Bool
  | .date date => isDay date
  | .dateTime date _ _ => isDay date
  | _ => true

/-! ## Numbers -/

/-- The digits that follow a digit, where single underscores may separate them. -/
def moreDigits (kind : Char → Bool) : List Char → List Char × List Char
  | '_' :: c :: rest =>
    if kind c then
      let (digits, rest) := moreDigits kind rest
      (c :: digits, rest)
    else ([], '_' :: c :: rest)
  | c :: rest =>
    if kind c then
      let (digits, rest) := moreDigits kind rest
      (c :: digits, rest)
    else ([], c :: rest)
  | [] => ([], [])

/-- Digits of a kind, at least one, where single underscores may separate them. -/
def digitRun (kind : Char → Bool) : Scan (List Char) := fun text =>
  match text with
  | c :: rest =>
    if kind c then
      let (digits, rest) := moreDigits kind rest
      .ok (c :: digits, rest)
    else .error .malformed
  | [] => .error .malformed

/-- A whole number to another base than ten. -/
def basedNumber : Scan Value := do
  expect ['0']
  let (base, kind) ← match ← next with
    | 'x' => pure (16, isHexDigit)
    | 'b' => pure (2, fun c => c == '0' || c == '1')
    | 'o' => pure (8, fun c => '0' ≤ c && c ≤ '7')
    | _ => refuse
  return .int (ofDigitChars base (← digitRun kind))

/-- A sign, if there is one: whether it is a minus. -/
def sign : Scan Bool := do
  if ← eat ['-'] then return true
  else
    let _ ← eat ['+']
    return false

/-- A fraction after its point. -/
def fraction : Scan (List Char) := do
  expect ['.']
  digitRun Char.isDigit

/-- An exponent: whether it is negative, and its digits. -/
def exponent : Scan (Bool × List Char) := do
  match ← next with
  | 'e' | 'E' => return (← sign, ← digitRun Char.isDigit)
  | _ => refuse

/-- The digits before the point: a zero alone, or digits that do not begin with one. -/
def wholeDigits : Scan (List Char) := do
  if ← eat ['0'] then return ['0'] else digitRun Char.isDigit

/-- A decimal in its parts. -/
def decimal : Scan DecimalParts := do
  let negative ← sign
  let whole ← wholeDigits
  let fraction := (← attempt fraction).getD []
  let (exponentNegative, exponent) := (← attempt exponent).getD (false, [])
  return { negative, whole, fraction, exponentNegative, exponent }

/-- A double that is no decimal. -/
def specialNumber : Scan Value := do
  let negative ← sign
  if ← eat "inf".toList then return .float (infinity negative)
  else if ← eat "nan".toList then return .float (0.0 / 0.0)
  else refuse

/-- A number. -/
def number : Scan Value := do
  if let some value ← attempt basedNumber then
    return value
  else if let some parts ← attempt decimal then
    parts.toValue
  else specialNumber

/-- A date, a time or a number. -/
def plainScalar : Scan Value := do
  if let some value ← attempt dateTime then
    if hasDay value then return value else refuse
  else if let some time ← attempt clock then
    return .time time
  else number

end Highlighter.Data.Toml
