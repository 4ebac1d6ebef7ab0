import Highlighter.Regex.Reader
import Highlighter.Signature.Grammar
import Highlighter.Text.Lower
import Highlighter.Value.Shown
import Highlighter.Value.Table

/-!
# Rules

A rule says how the spans of a token type are found: by a pattern, as whole words, by a scanner, or
not at all. `coerce` turns a profile value into a rule or says why it is none.

Which texts are patterns is up to a `PatternReader`. The library has one of its own, and nothing
else depends on which texts it takes for patterns and how it refuses the others.

Main definitions: `Rule`, `Rule.toValue`, `PatternReader`, `coerce`.
-/

namespace Highlighter

open Highlighter.Regex (Pattern Options)
open Highlighter.Text (lower)

/-- How the spans of a token type are found. -/
inductive Rule where
  /-- Every match of a pattern. -/
  | pattern (compiled : Pattern)
  /-- Every word of a list, where it stands as a whole word. A rule that was made by hand may hold
  values that are no words. -/
  | keywords (words : List Value)
  /-- Whatever a scanner produces. A rule that was made by hand may hold a value that is no
  scanner. -/
  | scanner (callee : Value)
  /-- Nothing: the type is only declared. -/
  | inert

/-- A rule as a profile value. -/
def Rule.toValue : Rule → Value
  | .pattern compiled => .patternRule (.pattern compiled)
  | .keywords words => .keywordRule words
  | .scanner callee => .scannerRule callee
  | .inert => .inertRule

/-- The option of a letter. -/
def optionOfLetter? : Char → Option Options
  | 'i' => some { ignoreCase := true }
  | 'm' => some { multiline := true }
  | 's' => some { dotAll := true }
  | 'x' => some { verbose := true }
  | 'a' => some { ascii := true }
  | _ => none

/-- The options of lower-case letters, or the first letter that stands for none. The letter `g` is
allowed and means nothing, since all matches are always found. -/
def optionsOfLetters : List Char → Except Char Options
  | [] => .ok {}
  | 'g' :: letters => optionsOfLetters letters
  | c :: letters => do
    match optionOfLetter? c with
    | some option => return option.union (← optionsOfLetters letters)
    | none => throw c

/-- The options that letters of either case stand for. -/
def readOptions (letters : String) : Except Char Options :=
  optionsOfLetters (lower letters).toList

/-- A reader of patterns. A text that is no pattern is refused with the fault `invalidPattern`, and
the reader may fail in any other way. -/
class PatternReader where
  read : String → Options → Except Fault Pattern

/-- The fault of an error of the library's own reader. -/
def Regex.PatternError.fault : Regex.PatternError → Fault
  | .malformed | .exhausted => .invalidPattern
  | .repeatTooLarge => .repeatTooLarge
  | .longNumeral digits => .longNumeral digits Text.maxDigits
  | .contradictoryOptions => .contradictoryOptions

/-- The library's own reader of patterns, given the code points of the characters that have a
name. -/
@[reducible]
def PatternReader.withNames (characters : String → Option Nat) : PatternReader where
  read source options := (Pattern.read source options characters).mapError (·.fault)

/-- The library's own reader of patterns, for which no character has a name. -/
@[reducible]
def PatternReader.standard : PatternReader :=
  .withNames fun _ => none

/-- The scanner of a built-in grammar, as a value. -/
def grammarScanner (grammar : Signature.Grammar) : Value :=
  .scanner grammar.scannerName "ArgumentScanner" fun source => do
    let spans ← grammar.scan source source.length
    return .list (spans.map .span)

/-- The built-in scanners by name. -/
def builtinScanner? (name : String) : Option Value :=
  (Signature.builtin.lookup name).map grammarScanner

/-- The fault of an entry that is no rule. The label of the entry is part of its message; if the
label cannot be written, that is the fault. -/
def malformed (label : Value) (defect : Defect) : Fault :=
  match label.plain? with
  | .ok text => .malformedRule text defect
  | .error unwritten => unwritten

@[simp]
theorem malformed_text (label : String) (defect : Defect) :
    malformed (.text label) defect = .malformedRule label defect :=
  rfl

/-- The fault of an entry because of a value, which is worded with the value's text. If the value
cannot be written, that is the fault. -/
def malformedBy (label value : Value) (defect : String → Defect) : Fault :=
  match value.shown? with
  | .ok shown => malformed label (defect shown)
  | .error unwritten => unwritten

/-- The options that a value stands for. -/
def optionsOfValue (value : Value) : Except Fault Options := do
  match readOptions (← value.plain?) with
  | .ok options => return options
  | .error c => throw (.unsupportedOption c)

/-- The fault of an entry whose options are refused. Only a fault about a wrong value is a reason
why the entry is no rule, and only if it can be worded. -/
def malformedOptions (label : Value) (fault : Fault) : Fault :=
  if fault.isValueFault then
    match fault.wording with
    | .ok text => malformed label (.other text)
    | .error cause => cause
  else fault

/-- Whether a value is a non-empty text. -/
def Value.isWord : Value → Bool
  | .text word => !word.isEmpty
  | _ => false

/-- The rule of a list of words. -/
def coerceWords (label : Value) (words : List Value) : Except Fault Rule :=
  match words.find? (!·.isWord) with
  | some word => .error (malformedBy label word .keyword)
  | none => .ok (.keywords words)

section Reading

variable [PatternReader]

/-- Reads the pattern of a profile entry. -/
def readPattern (label : Value) (source : String) (options : Options) : Except Fault Pattern :=
  match PatternReader.read source options with
  | .ok pattern => .ok pattern
  | .error .invalidPattern => .error (malformed label .invalidPattern)
  | .error fault => .error fault

/-- The rule of a mapping, which gives a pattern with options or names a built-in scanner. -/
def coerceMapping (label : Value) (entries : List (Value × Value)) : Except Fault Rule :=
  match Table.get? entries "pattern", Table.get? entries "scanner" with
  | some (.text source), _ =>
    match optionsOfValue ((Table.get? entries "flags").getD (.text "")) with
    | .ok options => (readPattern label source options).map .pattern
    | .error fault => .error (malformedOptions label fault)
  | some _, _ => .error (malformed label .patternType)
  | none, some name =>
    let scanner? := match name with
      | .text name => builtinScanner? name
      | _ => none
    match scanner? with
    | some scanner => .ok (.scanner scanner)
    | none => .error (malformedBy label name fun shown =>
        .unknownScanner shown (Signature.builtin.map (·.1)))
  | none, none => .error (malformed label .shapelessMapping)

/-- The rule that a profile value stands for. The label names the entry in messages. -/
def coerce (label : Value) : Value → Except Fault Rule
  | .patternRule (.pattern pattern) => .ok (.pattern pattern)
  | .patternRule _ => .error (malformed label .bytesPattern)
  | .keywordRule words => .ok (.keywords words)
  | .scannerRule scanner => .ok (.scanner scanner)
  | .inertRule => .ok .inert
  | .null => .ok .inert
  | .bool false => .ok .inert
  | .pattern pattern => .ok (.pattern pattern)
  | .bytesPattern _ => .error (malformed label .bytesPattern)
  | .text source => (readPattern label source {}).map .pattern
  | .map entries => coerceMapping label entries
  | .list words => coerceWords label words
  | .tuple words => coerceWords label words
  | .set _ words => coerceWords label words
  | .scanner name typeName scan => .ok (.scanner (.scanner name typeName scan))
  | .foreign { entry := .ok (some value), .. } => coerce label value
  | .foreign { entry := .error fault, .. } => .error fault
  | value => .error (malformed label (.unsupportedType value.typeName))

/-- A rule is the rule that it stands for as a value. -/
theorem coerce_toValue (label : Value) (rule : Rule) : coerce label rule.toValue = .ok rule := by
  cases rule <;> rfl

end Reading

end Highlighter
