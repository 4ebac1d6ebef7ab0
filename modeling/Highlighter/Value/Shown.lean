import Highlighter.Decimal.Shortest
import Highlighter.Text.Numeral
import Highlighter.Value.Basic

/-!
# Showing values

`Value.shown` is the text of a value in messages: texts are quoted, lists and mappings are shown
with their members. `Value.plain` is the text of a value as such, where a text stands for itself. A
whole number of more than `Text.maxDigits` digits is not written, and a value of an unknown type may
not be written either; `Value.shown?` and `Value.plain?` are the fault then.
-/

namespace Highlighter

open Highlighter.Text Highlighter.Decimal

/-- A number with at least two digits. -/
def twoDigits (value : Nat) : String :=
  String.ofList (padLeft 2 (Nat.toDigits 10 value))

/-- A date in the order year, month, day. -/
def Date.iso (date : Date) : String :=
  String.ofList (padLeft 4 (Nat.toDigits 10 date.year)) ++ "-" ++ twoDigits date.month ++ "-" ++
    twoDigits date.day

/-- A time, with its fraction if it has one. -/
def Clock.iso (clock : Clock) : String :=
  let fraction := if clock.microsecond = 0 then ""
    else "." ++ String.ofList (padLeft 6 (Nat.toDigits 10 clock.microsecond))
  twoDigits clock.hour ++ ":" ++ twoDigits clock.minute ++ ":" ++ twoDigits clock.second ++ fraction

/-- An offset from universal time. -/
def offsetIso (ahead : Int) : String :=
  (if ahead < 0 then "-" else "+") ++ twoDigits (ahead.natAbs / 60) ++ ":" ++
    twoDigits (ahead.natAbs % 60)

/-- The members of a date, as they are shown. -/
def Date.parts (date : Date) : List String :=
  [toString date.year, toString date.month, toString date.day]

/-- The members of a time, as they are shown: seconds and their fraction only if they matter. -/
def Clock.parts (clock : Clock) : List String :=
  [toString clock.hour, toString clock.minute] ++
    (if clock.second = 0 && clock.microsecond = 0 then [] else [toString clock.second]) ++
    (if clock.microsecond = 0 then [] else [toString clock.microsecond])

/-- A difference of times in minutes, as days and seconds from the day before. -/
def offsetShown (ahead : Int) : String :=
  if ahead = 0 then "datetime.timezone.utc"
  else if ahead > 0 then
    "datetime.timezone(datetime.timedelta(seconds=" ++ toString (ahead * 60) ++ "))"
  else
    "datetime.timezone(datetime.timedelta(days=-1, seconds=" ++
      toString (86400 + ahead * 60) ++ "))"

/-- Texts between two delimiters. -/
def enclosed (opening closing : String) (parts : List String) : String :=
  opening ++ ", ".intercalate parts ++ closing

/-- The options of a pattern by name. -/
def optionNames (options : Regex.Options) : List String :=
  (if options.template then ["re.TEMPLATE"] else []) ++
    (if options.ignoreCase then ["re.IGNORECASE"] else []) ++
    (if options.multiline then ["re.MULTILINE"] else []) ++
    (if options.dotAll then ["re.DOTALL"] else []) ++
    (if options.verbose then ["re.VERBOSE"] else []) ++
    (if options.ascii then ["re.ASCII"] else [])

/-- A pattern, as it is shown: at most two hundred characters of its quoted text, and its
options. -/
def patternShown (pattern : Regex.Pattern) : String :=
  let text := String.ofList ((quotedChars pattern.source.toList).take 200)
  let options := optionNames pattern.options
  "re.compile(" ++ text ++ (if options.isEmpty then "" else ", " ++ "|".intercalate options) ++ ")"

mutual

/-- The text of a value in messages. -/
def Value.shown : Value → String
  | .null => "None"
  | .bool value => if value then "True" else "False"
  | .int value => toString value
  | .float value => floatText value
  | .text value => quoted value
  | .bytes value => quotedBytes value
  | .date value => enclosed "datetime.date(" ")" value.parts
  | .time value => enclosed "datetime.time(" ")" value.parts
  | .dateTime day clock ahead =>
    enclosed "datetime.datetime(" ")" (day.parts ++ clock.parts ++
      match ahead with
      | some ahead => ["tzinfo=" ++ offsetShown ahead]
      | none => [])
  | .list items => enclosed "[" "]" (Value.shownAll items)
  | .tuple items =>
    match Value.shownAll items with
    | [item] => "(" ++ item ++ ",)"
    | items => enclosed "(" ")" items
  | .set frozen items =>
    match frozen, Value.shownAll items with
    | true, [] => "frozenset()"
    | false, [] => "set()"
    | true, items => enclosed "frozenset(\x7b" "\x7d)" items
    | false, items => enclosed "\x7b" "\x7d" items
  | .map entries => enclosed "\x7b" "\x7d" (Value.shownEntries entries)
  | .pattern compiled => patternShown compiled
  | .bytesPattern source => "re.compile(b" ++ quoted source ++ ")"
  | .span range =>
    "HighlightRange(start=" ++ toString range.start ++ ", end=" ++ toString range.stop ++ ")"
  | .scanner name _ _ => name
  | .patternRule value => "PatternRule(pattern=" ++ value.shown ++ ")"
  | .keywordRule words =>
    match Value.shownAll words with
    | [word] => "KeywordRule(words=(" ++ word ++ ",))"
    | words => enclosed "KeywordRule(words=(" "))" words
  | .scannerRule value => "ScannerRule(scanner=" ++ value.shown ++ ")"
  | .inertRule => "InertRule()"
  | .object => "<object>"
  | .foreign conduct => conduct.shown.toOption.getD ""

/-- The texts of several values. -/
def Value.shownAll : List Value → List String
  | [] => []
  | value :: values => value.shown :: Value.shownAll values

/-- The texts of the entries of a mapping. -/
def Value.shownEntries : List (Value × Value) → List String
  | [] => []
  | (key, value) :: entries => (key.shown ++ ": " ++ value.shown) :: Value.shownEntries entries

end

mutual

/-- The fault that keeps a value from being written, such as a whole number of too many digits. -/
def Value.unwritten? : Value → Option Fault
  | .int value =>
    if value.natAbs < 10 ^ maxDigits then none else some (.unwrittenNumeral maxDigits)
  | .list items => Value.unwrittenIn? items
  | .tuple items => Value.unwrittenIn? items
  | .set _ items => Value.unwrittenIn? items
  | .map entries => Value.unwrittenEntries? entries
  | .span range => if range.stop < 10 ^ maxDigits then none else some (.unwrittenNumeral maxDigits)
  | .patternRule value => value.unwritten?
  | .keywordRule words => Value.unwrittenIn? words
  | .scannerRule value => value.unwritten?
  | .foreign conduct =>
    match conduct.shown with
    | .ok _ => none
    | .error fault => some fault
  | _ => none

/-- The first such fault of several values. -/
def Value.unwrittenIn? : List Value → Option Fault
  | [] => none
  | value :: values => value.unwritten?.or (Value.unwrittenIn? values)

/-- The first such fault of the entries of a mapping. -/
def Value.unwrittenEntries? : List (Value × Value) → Option Fault
  | [] => none
  | (key, value) :: entries =>
    (key.unwritten?.or value.unwritten?).or (Value.unwrittenEntries? entries)

end

/-- The text of a value in messages, or the fault of writing it. -/
def Value.shown? (value : Value) : Except Fault String :=
  match value.unwritten? with
  | none => .ok value.shown
  | some fault => .error fault

/-- The text of a value as such. -/
def Value.plain : Value → String
  | .text value => value
  | .date value => value.iso
  | .time value => value.iso
  | .dateTime day clock ahead =>
    day.iso ++ " " ++ clock.iso ++ (ahead.map offsetIso).getD ""
  | .foreign conduct => conduct.plain.toOption.getD ""
  | value => value.shown

/-- The text of a value as such, or the fault of writing it. -/
def Value.plain? : Value → Except Fault String
  | .foreign conduct => conduct.plain
  | value =>
    match value.unwritten? with
    | none => .ok value.plain
    | some fault => .error fault

theorem Value.plain_of_plain? {value : Value} {text : String} (h : value.plain? = .ok text) :
    value.plain = text := by
  unfold Value.plain? at h
  split at h
  · rw [Value.plain, h]
    rfl
  · split at h
    · exact Except.ok.inj h
    · cases h

end Highlighter
