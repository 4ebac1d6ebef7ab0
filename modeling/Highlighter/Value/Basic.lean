import Highlighter.Regex.Syntax
import Highlighter.Span

/-!
# Profile values

A profile maps token types to values as its author wrote them: patterns, lists of words, scanners,
data read from a file, or ready rules. `Value` is the type of all of them, together with what a
scanner may produce. A scanner is a function of the text: it may leave notices, end with a fault, or
produce any value.

A value may also be of a type that the library does not know. Its `Conduct` says what comes of each
thing that the library does with values, which may be any fault.

Main definitions: `Value`, `Conduct`.
-/

namespace Highlighter

open Highlighter.Regex (Pattern)

/-- A day of the calendar. -/
structure Date where
  year : Nat
  month : Nat
  day : Nat
  deriving DecidableEq, Repr

/-- A time of the day. -/
structure Clock where
  hour : Nat
  minute : Nat
  second : Nat := 0
  microsecond : Nat := 0
  deriving DecidableEq, Repr

/-- What a value of an unknown type does. Its members and entries are values of type `ν`. -/
structure Conduct (ν : Type) where
  typeName : String
  /-- The value that it stands for as an entry of a profile, if it is of any kind that can be
  one. -/
  entry : Except Fault (Option ν)
  /-- Its entries, if it is a mapping. -/
  entries : Except Fault (Option (List (ν × ν)))
  /-- Its members, one after the other. -/
  members : Except Fault (List ν)
  /-- The offset that it gives. -/
  offset : Except Fault Int
  /-- Its text in messages. -/
  shown : Except Fault String
  /-- Its text as such. -/
  plain : Except Fault String
  /-- Whether it can be a key. -/
  key : Except Fault Unit
  /-- Whether it counts for something. -/
  counts : Except Fault Bool
  length : Except Fault Nat
  /-- The word that it is. -/
  word : Except Fault String
  /-- Where a file of the given name is, if it is the place of profiles. -/
  folder : String → Except Fault String

/-- A value of a profile or of a scanner. -/
inductive Value where
  | null
  | bool (value : Bool)
  | int (value : Int)
  | float (value : Float)
  | text (value : String)
  | bytes (value : List UInt8)
  | date (value : Date)
  | time (value : Clock)
  /-- A date with a time and, if known, the minutes by which it is ahead of universal time. -/
  | dateTime (day : Date) (clock : Clock) (ahead : Option Int)
  | list (items : List Value)
  | tuple (items : List Value)
  | set (frozen : Bool) (items : List Value)
  | map (entries : List (Value × Value))
  | pattern (compiled : Pattern)
  /-- A pattern for bytes. -/
  | bytesPattern (source : String)
  | span (range : Span)
  /-- A scanner with its name and the name of its type. -/
  | scanner (name typeName : String) (scan : String → Run Value)
  /-- A pattern rule around any value. -/
  | patternRule (value : Value)
  /-- A keyword rule of any values. -/
  | keywordRule (words : List Value)
  /-- A scanner rule around any value. -/
  | scannerRule (value : Value)
  | inertRule
  /-- A value without properties. -/
  | object
  /-- A value of an unknown type. -/
  | foreign (conduct : Conduct Value)

namespace Value

/-- The name of a value's type. -/
def typeName : Value → String
  | .null => "NoneType"
  | .bool _ => "bool"
  | .int _ => "int"
  | .float _ => "float"
  | .text _ => "str"
  | .bytes _ => "bytes"
  | .date _ => "date"
  | .time _ => "time"
  | .dateTime _ _ _ => "datetime"
  | .list _ => "list"
  | .tuple _ => "tuple"
  | .set frozen _ => if frozen then "frozenset" else "set"
  | .map _ => "dict"
  | .pattern _ => "Pattern"
  | .bytesPattern _ => "Pattern"
  | .span _ => "HighlightRange"
  | .scanner _ typeName _ => typeName
  | .patternRule _ => "PatternRule"
  | .keywordRule _ => "KeywordRule"
  | .scannerRule _ => "ScannerRule"
  | .inertRule => "InertRule"
  | .object => "object"
  | .foreign conduct => conduct.typeName

/-- The name of a value's type with the library that it belongs to. -/
def qualifiedTypeName (value : Value) : String :=
  match value with
  | .date _ => "datetime.date"
  | .time _ => "datetime.time"
  | .dateTime _ _ _ => "datetime.datetime"
  | .pattern _ => "re.Pattern"
  | .bytesPattern _ => "re.Pattern"
  | value => value.typeName

/-- The values that a value consists of, one after the other. -/
def items : Value → Except Fault (List Value)
  | .text value => .ok (value.toList.map fun c => .text (String.singleton c))
  | .bytes value => .ok (value.map fun byte => .int byte.toNat)
  | .list items => .ok items
  | .tuple items => .ok items
  | .set _ items => .ok items
  | .map entries => .ok (entries.map (·.1))
  | .foreign conduct => conduct.members
  | value => .error (.notIterable value.qualifiedTypeName)

end Value

end Highlighter
