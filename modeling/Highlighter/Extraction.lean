import Highlighter.Profile
import Highlighter.Regex.Match
import Highlighter.Rule.Basic
import Highlighter.Rule.Keyword
import Highlighter.Text.Numeral

/-!
# Extraction

`extract` finds the spans of one profile entry in a text, and `extractAll` those of a whole profile.
An entry that is no rule, a scanner that fails and a keyword list that cannot be matched are
reported and contribute nothing; the other entries are not affected. What a scanner produces is
checked item by item.

Main definitions: `extract`, `extractAll`, `tokenize`.
-/

namespace Highlighter

open Highlighter.Regex Highlighter.Text

/-- The spans of all non-empty matches. -/
def matchSpans (pattern : Pattern) (source : List Char) : List Span :=
  (pattern.findAll source).filterMap fun found =>
    if h : found.start < found.stop then some ⟨found.start, found.stop, h⟩ else none

/-- The offset that a value gives: fractions are cut off, truth values count as zero and one, and
texts and bytes are read as numbers. -/
def Value.toOffset : Value → Except Fault Int
  | .int value => .ok value
  | .bool value => .ok (if value then 1 else 0)
  | .float value =>
    match Decimal.Binary.ofFloat value with
    | .infinite _ => .error .infiniteOffset
    | .nan => .error .noWholeNumber
    | .finite _ _ _ => .ok ((Decimal.truncate? value).getD 0)
  | .text value =>
    match readInt? value.toList with
    | some offset => .ok offset
    | none => .error .noWholeNumber
  | .bytes value =>
    if value.all (· < 128) then
      match readInt? (value.map fun byte => Char.ofNat byte.toNat) with
      | some offset => .ok offset
      | none => .error .noWholeNumber
    else .error .noWholeNumber
  | .foreign conduct => conduct.offset
  | value => .error (.noOffset value.typeName)

/-- The offsets that an item of a scanner gives: the bounds of a span, or the numbers that a value
of two members gives, the first checked first. -/
def Value.toOffsets : Value → Except Fault (Int × Int)
  | .span range => .ok (range.start, range.stop)
  | value => do
    match ← value.items with
    | [first, second] =>
      let start ← first.toOffset
      let stop ← second.toOffset
      return (start, stop)
    | _ => throw .noPair

/-- The span that an item of a scanner stands for, in a text of the given length. -/
def Value.toSpan (length : Nat) (item : Value) : Except Fault Span := do
  let (start, stop) ← item.toOffsets
  Span.within? length start stop

/-- Whether a fault is about offsets that leave the text. -/
def Fault.isOutOfText (fault : Fault) : Bool :=
  fault.isA "RangeConstructionError"

/-- Whether a fault of an item means that the item is no range. -/
def Fault.isNoRange (fault : Fault) : Bool :=
  fault.isA "TypeError" || fault.isA "ValueError"

/-- What becomes of a fault of an item: offsets that leave the text and values that are no ranges
are noted, and any other fault is passed on. -/
def dropItem (label : String) (item : Value) (fault : Fault) : Run (Option Span) :=
  if fault.isOutOfText then do
    .note (.rejectedRange label fault)
    return none
  else if fault.isNoRange then do
    .note (.notARange label item.shown)
    return none
  else .fail fault

/-- The span of an item of a scanner, if it stands for one. Nothing at all is passed over in
silence. -/
def checkItem (length : Nat) (label : String) (item : Value) : Run (Option Span) :=
  match item with
  | .null => pure none
  | item =>
    match item.toSpan length with
    | .ok span => pure (some span)
    | .error fault => dropItem label item fault

/-- The spans that the items of a scanner stand for. -/
def checkItems (length : Nat) (label : String) : List Value → Run (List Span)
  | [] => pure []
  | item :: items => do
    let span ← checkItem length label item
    let spans ← checkItems length label items
    return span.toList ++ spans

/-- Reports that a rule contributes nothing. -/
def ruleFailure (fault : Fault) : Run (List Span) := do
  .note (.ruleFailed fault)
  .count { failures := 1 }
  return []

/-- Reports that a rule contributes nothing because of a fault that was caught. The report says what
the fault says; if the fault cannot be worded, there is no report but another fault. -/
def ruleFailureBy (cause : Fault) (report : String → Fault) : Run (List Span) :=
  match cause.wording with
  | .ok message => ruleFailure (report message)
  | .error fault => .fail fault

/-- Runs a value as a scanner and gives the items it produces. -/
def scanItems (scanner : Value) (source : String) : Run (List Value) :=
  match scanner with
  | .scanner _ _ scan => do
    let produced ← scan source
    .ofExcept produced.items
  | value => .fail (.notCallable value.qualifiedTypeName)

/-- The spans that a rule finds in a text. -/
def Rule.extract (rule : Rule) (source : String) (label : String) : Run (List Span) :=
  match rule with
  | .inert => pure []
  | .pattern compiled => pure (matchSpans compiled source.toList)
  | .keywords words =>
    match keywordsOf words with
    | .ok words =>
      pure (match keywordPattern? words with
        | some compiled => matchSpans compiled source.toList
        | none => [])
    | .error fault =>
      ruleFailureBy fault fun message => .malformedRule label (.failed fault.kind message)
  | .scanner callee => do
    match ← (scanItems callee source).attempt with
    | .ok items => return Span.sorted (← checkItems source.length label items)
    | .error fault =>
      ruleFailureBy fault fun message => .scannerFailed label fault.kind message

/-- The label of an entry in messages. -/
def entryLabel (type : String) : String :=
  if type.isEmpty then "<unnamed>" else type

variable [PatternReader]

/-- The spans that a profile entry finds in a text. -/
def extract (value : Value) (source type : String) : Run (List Span) :=
  match coerce (.text (entryLabel type)) value with
  | .ok rule => rule.extract source (entryLabel type)
  | .error fault => if fault.isMalformed then ruleFailure fault else .fail fault

/-- The spans of the given entries, in their order. -/
def extractEntries (source : String) : List (String × Value) → Run (List (String × List Span))
  | [] => pure []
  | (type, value) :: entries => do
    let found ← extract value source type
    .count { rules := 1, ranges := found.length }
    let others ← extractEntries source entries
    return (type, found) :: others

/-- The spans of all entries of a profile. -/
def extractAll (profile : Profile) (source : String) (generation : Nat := 0) : Run Highlights := do
  .count { passes := 1, sourceLength := source.length }
  let spans ← extractEntries source profile.entries
  return { source, spans, generation }

/-- The spans of a mapping of token types to values. -/
def tokenize (source : String) (entries : List (Value × Value)) : Run Highlights := do
  let profile ← Profile.ofMapping "custom" entries
  extractAll profile source

end Highlighter
